/-!
# Digits in base 16

Lower-case hexadecimal text, as digests and escapes are written.
-/

namespace StackSync.Text

def hexDigit (n : Nat) : Char :=
  if n < 10 then Char.ofNat (48 + n) else Char.ofNat (87 + n)

def hexValue? (c : Char) : Option Nat :=
  let n := c.toNat
  if 48 ≤ n ∧ n ≤ 57 then some (n - 48)
  else if 97 ≤ n ∧ n ≤ 102 then some (n - 87)
  else if 65 ≤ n ∧ n ≤ 70 then some (n - 55)
  else none

def hexChars (n : Nat) : List Char :=
  if n < 16 then [hexDigit n] else hexChars (n / 16) ++ [hexDigit (n % 16)]
  termination_by n
  decreasing_by omega

def hex (n : Nat) : String := String.ofList (hexChars n)

def hexOfBytes (bytes : ByteArray) : String :=
  String.ofList (bytes.toList.flatMap fun b => [hexDigit (b.toNat / 16), hexDigit (b.toNat % 16)])

def asciiLower (c : Char) : Char :=
  if 'A' ≤ c ∧ c ≤ 'Z' then Char.ofNat (c.toNat + 32) else c

/-- ASCII letters in lower case; every other character stays. -/
def toAsciiLower (s : String) : String := String.ofList (s.toList.map asciiLower)

end StackSync.Text

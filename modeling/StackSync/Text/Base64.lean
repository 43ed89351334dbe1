/-!
# Base 64

The usual alphabet with `+` and `/`; padding is taken off before the groups are read.
-/

namespace StackSync.Text

def base64Value? (c : Char) : Option Nat :=
  let n := c.toNat
  if 65 ≤ n ∧ n ≤ 90 then some (n - 65)
  else if 97 ≤ n ∧ n ≤ 122 then some (n - 71)
  else if 48 ≤ n ∧ n ≤ 57 then some (n + 4)
  else if c = '+' then some 62
  else if c = '/' then some 63
  else none

/-- Appends the bytes of the sextets: four make three bytes, a last group of two or three makes one or two. -/
def bytesOfSextets (out : ByteArray) : List Nat → ByteArray
  | a :: b :: c :: d :: rest =>
    let n := ((a * 64 + b) * 64 + c) * 64 + d
    bytesOfSextets
      (((out.push (n / 65536).toUInt8).push (n / 256 % 256).toUInt8).push (n % 256).toUInt8) rest
  | [a, b, c] =>
    let n := (a * 64 + b) * 64 + c
    (out.push (n / 1024).toUInt8).push (n / 4 % 256).toUInt8
  | [a, b] => out.push ((a * 64 + b) / 16).toUInt8
  | _ => out

def base64Decode? (s : String) : Option ByteArray :=
  ((s.toList.filter (· != '=')).mapM base64Value?).map (bytesOfSextets ByteArray.empty)

end StackSync.Text

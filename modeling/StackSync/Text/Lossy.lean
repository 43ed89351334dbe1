/-!
# Bytes and text

A file system knows names as bytes. Text is written in UTF-8, but names in an archive need not be: when they are
shown, well-formed sequences become their characters, and each longest start of a sequence that breaks off
becomes one replacement character.
-/

namespace StackSync.Text

/-- The bytes of a text. -/
def utf8 (s : String) : List UInt8 := s.toList.flatMap String.utf8EncodeChar

/-- What may follow the first byte of a longer sequence: how many bytes, and the range of the first of them. -/
def continuation? (b : UInt8) : Option (Nat × Nat × Nat) :=
  let n := b.toNat
  if 0xC2 ≤ n ∧ n ≤ 0xDF then some (1, 0x80, 0xBF)
  else if n = 0xE0 then some (2, 0xA0, 0xBF)
  else if n = 0xED then some (2, 0x80, 0x9F)
  else if 0xE1 ≤ n ∧ n ≤ 0xEF then some (2, 0x80, 0xBF)
  else if n = 0xF0 then some (3, 0x90, 0xBF)
  else if 0xF1 ≤ n ∧ n ≤ 0xF3 then some (3, 0x80, 0xBF)
  else if n = 0xF4 then some (3, 0x80, 0x8F)
  else none

/-- How many of the bytes continue a sequence that wants `count` more, the first in the given range. -/
def continuing (count lo hi : Nat) : List UInt8 → Nat
  | [] => 0
  | b :: rest =>
    match count with
    | 0 => 0
    | count + 1 => if lo ≤ b.toNat ∧ b.toNat ≤ hi then continuing count 0x80 0xBF rest + 1 else 0

def replacement : Char := Char.ofNat 0xFFFD

def charOfBytes (bytes : List UInt8) : Char :=
  match bytes.map (·.toNat) with
  | [a] => Char.ofNat a
  | [a, b] => Char.ofNat ((a % 32) * 64 + b % 64)
  | [a, b, c] => Char.ofNat (((a % 16) * 64 + b % 64) * 64 + c % 64)
  | [a, b, c, d] => Char.ofNat ((((a % 8) * 64 + b % 64) * 64 + c % 64) * 64 + d % 64)
  | _ => replacement

def charsOfBytes (bytes : List UInt8) : List Char :=
  match bytes with
  | [] => []
  | b :: rest =>
    if b.toNat < 0x80 then Char.ofNat b.toNat :: charsOfBytes rest
    else
      match continuation? b with
      | none => replacement :: charsOfBytes rest
      | some (count, lo, hi) =>
        let found := continuing count lo hi rest
        let c := if found = count then charOfBytes (b :: rest.take count) else replacement
        c :: charsOfBytes (rest.drop found)
  termination_by bytes.length
  decreasing_by
    · simp
    · simp
    · simp only [List.length_drop, List.length_cons]; omega

def ofBytesLossy (bytes : List UInt8) : String := String.ofList (charsOfBytes bytes)

end StackSync.Text

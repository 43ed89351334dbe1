import StackSync.Text.Cut
import StackSync.Text.Hex
import StackSync.Text.Integer

/-!
# Addresses in hosts

A host that ends in a number is an IPv4 address: up to four numbers in base 8, 10 or 16, the last of which
fills the bytes that are left. A host in brackets is an IPv6 address: eight groups of up to four digits, of
which one run of zeros may be left out, and the last two of which may be written as an IPv4 address.
-/

namespace StackSync.Url

def digitsIn? (base : Nat) (s : List Char) : Option Nat :=
  s.foldlM (fun n c => (Text.hexValue? c).bind fun d => if d < base then some (base * n + d) else none) 0

/-- A number as addresses write it: `0x` starts base 16, another leading zero base 8. -/
def addressNumber? : List Char → Option Nat
  | [] => none
  | '0' :: 'x' :: rest | '0' :: 'X' :: rest => digitsIn? 16 rest
  | '0' :: c :: rest => digitsIn? 8 (c :: rest)
  | s => digitsIn? 10 s

def dottedParts (s : List Char) : List (List Char) :=
  let parts := Text.pieces '.' s
  if 1 < parts.length ∧ parts.getLast? = some [] then parts.dropLast else parts

/-- Whether the last part is a number, so that the host has to be an address. -/
def endsInNumber (s : List Char) : Bool :=
  match (dottedParts s).getLast? with
  | none => false
  | some part =>
    (!part.isEmpty && part.all Text.isDigit) || (addressNumber? part).isSome

def ipv4? (s : List Char) : Option Nat := do
  let parts := dottedParts s
  if 4 < parts.length then none
  else
    let numbers ← parts.mapM addressNumber?
    let last ← numbers.getLast?
    let leading := numbers.dropLast
    if Nat.pow 256 (4 - leading.length) ≤ last ∨ leading.any (255 < ·) then none
    else
      return leading.foldl (fun n b => 256 * n + b) 0 * Nat.pow 256 (4 - leading.length) + last

def ipv4Text (address : Nat) : String :=
  ".".intercalate ([3, 2, 1, 0].map fun i => toString (address / Nat.pow 256 i % 256))

def group? (s : List Char) : Option Nat :=
  if s.isEmpty ∨ 4 < s.length then none else digitsIn? 16 s

/-- A byte of an embedded IPv4 address: base 10, without leading zeros. -/
def embeddedByte? : List Char → Option Nat
  | [] => none
  | '0' :: _ :: _ => none
  | s => (Text.readDigits? s).filter (· ≤ 255)

def embedded? (s : List Char) : Option (List Nat) := do
  match ← (Text.pieces '.' s).mapM embeddedByte? with
  | [a, b, c, d] => return [256 * a + b, 256 * c + d]
  | _ => none

/-- The groups of one side of a `::`; only the last side may end in an IPv4 address. -/
def groups? (mayEmbed : Bool) (s : List Char) : Option (List Nat) :=
  if s.isEmpty then some []
  else
    let parts := Text.pieces ':' s
    match parts.getLast? with
    | none => some []
    | some last =>
      if mayEmbed && last.contains '.' then do
        let leading ← parts.dropLast.mapM group?
        return leading ++ (← embedded? last)
      else parts.mapM group?

/-- The texts before and behind the first `::`. -/
def cutAtGap? : List Char → Option (List Char × List Char)
  | ':' :: ':' :: rest => some ([], rest)
  | c :: rest => (cutAtGap? rest).map fun (before, behind) => (c :: before, behind)
  | [] => none

def ipv6? (s : List Char) : Option (List Nat) := do
  match cutAtGap? s with
  | none =>
    let groups ← groups? true s
    if groups.length = 8 then return groups else none
  | some (before, behind) =>
    let left ← groups? false before
    let right ← groups? true behind
    if 7 < left.length + right.length then none
    else return left ++ List.replicate (8 - left.length - right.length) 0 ++ right

/-- Start and length of the first longest run of zero groups. -/
def longestGap : Nat → List Nat → Nat × Nat
  | _, [] => (0, 0)
  | i, g :: rest =>
    let here := ((g :: rest).takeWhile (· == 0)).length
    let later := longestGap (i + 1) rest
    if here ≠ 0 ∧ later.2 ≤ here then (i, here) else later

def ipv6Text (groups : List Nat) : String :=
  let written := fun (gs : List Nat) => ":".intercalate (gs.map Text.hex)
  let (start, length) := longestGap 0 groups
  if length < 2 then written groups
  else written (groups.take start) ++ "::" ++ written (groups.drop (start + length))

end StackSync.Url

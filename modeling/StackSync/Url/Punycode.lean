import StackSync.Text.Hex
import StackSync.Text.Integer

/-!
# Labels in ASCII

The characters of a label above ASCII are told by how they are put into the others: in the order of their code
points, and of their places where these agree. Each step is the distance to the next insertion, counted over
code points and over the places there are for each. Distances are written in base 36 with digits whose bounds
follow the size of the distances before.
-/

namespace StackSync.Url.Punycode

/-- Letters are the digits up to 25. -/
def digitChar (d : Nat) : Char := Char.ofNat (if d < 26 then 97 + d else 22 + d)

def digitValue? (c : Char) : Option Nat :=
  let c := Text.asciiLower c
  if 'a' ≤ c ∧ c ≤ 'z' then some (c.toNat - 97)
  else if Text.isDigit c then some (c.toNat - 22)
  else none

/-- The smallest digit after which, at a place, there is another one. -/
def bound (bias place : Nat) : Nat := min 26 (max 1 (place - bias))

theorem bound_pos (bias place : Nat) : 1 ≤ bound bias place := by
  unfold bound
  omega

/-- How many times a distance can be divided before it is small, in steps of a digit, and what is left. -/
def scale (distance steps : Nat) : Nat × Nat :=
  if 455 < distance then scale (distance / 35) (steps + 36) else (distance, steps)
  termination_by distance
  decreasing_by exact Nat.div_lt_self (by omega) (by omega)

/-- The bias behind a distance, for a text of a size. -/
def biasAfter (distance size : Nat) (isFirst : Bool) : Nat :=
  let d := if isFirst then distance / 700 else distance / 2
  let (d, steps) := scale (d + d / size) 0
  steps + 36 * d / (d + 38)

/-- The digits of a number, with places from 36 on in steps of 36. -/
def digits (bias place n : Nat) : List Char :=
  let b := bound bias place
  if n < b then [digitChar n]
  else digitChar (b + (n - b) % (36 - b)) :: digits bias (place + 36) ((n - b) / (36 - b))
  termination_by n
  decreasing_by
    have hpos := bound_pos bias place
    exact Nat.lt_of_le_of_lt (Nat.div_le_self _ _) (by omega)

/-- Where an insertion takes place: a code point, and how many characters stand before it. -/
structure Insertion where
  code : Nat
  index : Nat
  deriving DecidableEq, Repr

/-- The characters above ASCII, in the order they are inserted in. -/
def insertions (s : List Char) : List Insertion :=
  let all := s.zipIdx.filterMap fun (c, place) =>
    if c.toNat < 0x80 then none
    else some ⟨c.toNat, (s.take place).countP fun d => d.toNat ≤ c.toNat⟩
  all.mergeSort fun a b => a.code ≤ b.code

/-- The state between two insertions: the last code point, the place behind it, and the size of the text. -/
structure Cursor where
  code : Nat
  index : Nat
  size : Nat
  bias : Nat

/-- The digits of insertions from a state on. -/
def encodeFrom (at_ : Cursor) (isFirst : Bool) : List Insertion → List Char
  | [] => []
  | next :: rest =>
    let distance := (next.code - at_.code) * (at_.size + 1) + next.index - at_.index
    let size := at_.size + 1
    digits at_.bias 36 distance ++
      encodeFrom ⟨next.code, next.index + 1, size, biasAfter distance size isFirst⟩ false rest

def start (size : Nat) : Cursor := ⟨0x80, 0, size, 72⟩

def encode (s : List Char) : List Char :=
  let plain := s.filter fun c => c.toNat < 0x80
  plain ++ (if plain.isEmpty then [] else ['-']) ++ encodeFrom (start plain.length) true (insertions s)

/-- A number that is being read: its digits so far, the weight of the next one, and its place. -/
structure Partial where
  value : Nat
  weight : Nat
  place : Nat

def Partial.none : Partial := ⟨0, 1, 36⟩

def char? (n : Nat) : Option Char := if n.isValidChar then some (Char.ofNat n) else none

/-- Reads insertions into a text, digit by digit; the last number must be whole. -/
def decodeFrom (at_ : Cursor) (isFirst : Bool) (n : Partial) (text : List Char) :
    List Char → Option (List Char)
  | [] => if n.weight = 1 then some text else none
  | c :: rest => do
    let d ← digitValue? c
    let value := n.value + d * n.weight
    let b := bound at_.bias n.place
    if b ≤ d then
      decodeFrom at_ isFirst ⟨value, n.weight * (36 - b), n.place + 36⟩ text rest
    else
      let size := at_.size + 1
      let code := at_.code + (at_.index + value) / size
      let index := (at_.index + value) % size
      let inserted ← char? code
      decodeFrom ⟨code, index + 1, size, biasAfter value size isFirst⟩ false .none
        (text.take index ++ inserted :: text.drop index) rest

/-- The text whose ASCII characters stand before the last hyphen, if one has anything before it. -/
def decode? (s : List Char) : Option (List Char) :=
  let behind := (s.reverse.takeWhile (· ≠ '-')).reverse
  let plain := s.take (s.length - behind.length - 1)
  if plain.any fun c => 0x80 ≤ c.toNat then none
  else decodeFrom (start plain.length) true .none plain (if plain.isEmpty then s else behind)

end StackSync.Url.Punycode

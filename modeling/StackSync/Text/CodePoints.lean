import StackSync.Text.Cut
import StackSync.Text.Hex

/-!
# Tables of code points

A table says something of ranges of code points that stand in their order. It is written as words between
blanks: a range as `41-5A` or `41`, in base 16, and behind a mark what is said of it. A code point is looked up
by halving.
-/

namespace StackSync.Text

structure CodeRange (α : Type) where
  first : Nat
  last : Nat
  value : α
  deriving Repr

abbrev CodeTable (α : Type) := Array (CodeRange α)

/-- The words of a text between blanks and line ends. -/
def words (s : String) : List (List Char) :=
  let (done, last) := s.foldl (fun (done, word) c =>
    if c = ' ' ∨ c = '\n' then (word :: done, []) else (done, c :: word)) ([], [])
  ((last :: done).reverse.filter fun word => !word.isEmpty).map List.reverse

/-- A number in base 16; what is no digit counts for nothing. -/
def hexNumber (s : List Char) : Nat := (s.filterMap hexValue?).foldl (fun n d => 16 * n + d) 0

def rangeOf (s : List Char) : Nat × Nat :=
  match cut? '-' s with
  | some (first, last) => (hexNumber first, hexNumber last)
  | none => (hexNumber s, hexNumber s)

namespace CodeTable

/-- A table of ranges with nothing said of them. -/
def ofRanges (text : String) : CodeTable Unit :=
  ((words text).map fun word => ⟨(rangeOf word).1, (rangeOf word).2, ()⟩).toArray

/-- A table whose values stand behind an equals sign; words without one are skipped. -/
def ofText (value : List Char → α) (text : String) : CodeTable α :=
  ((words text).filterMap fun word => (cut? '=' word).map fun (range, v) =>
    ⟨(rangeOf range).1, (rangeOf range).2, value v⟩).toArray

/-- How many ranges start at or before a code point, if those before `low` do and those from `high` on do not. -/
def startedBy (t : CodeTable α) (n low high : Nat) : Nat :=
  if low < high then
    let middle := (low + high) / 2
    if (t[middle]?.map (·.first)).any (· ≤ n) then startedBy t n (middle + 1) high
    else startedBy t n low middle
  else low
  termination_by high - low
  decreasing_by all_goals omega

/-- The range that a code point is in. -/
def range? (t : CodeTable α) (c : Char) : Option (CodeRange α) :=
  match startedBy t c.toNat 0 t.size with
  | 0 => none
  | k + 1 => t[k]?.filter fun r => c.toNat ≤ r.last

def contains (t : CodeTable α) (c : Char) : Bool := (t.range? c).isSome

def value? (t : CodeTable α) (c : Char) : Option α := (t.range? c).map (·.value)

end CodeTable

end StackSync.Text

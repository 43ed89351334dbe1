import StackSync.Number.Binary64
import StackSync.Text.Blank
import StackSync.Text.Integer

/-!
# Durations

A delay is written as one or more items such as `1h30m` or `1.5h`: a decimal number directly followed by its
unit. A bare `0` needs no unit; signs, inner blanks and unknown units are refused. The seconds of the items
are added in binary64, and the sum is rounded to whole nanoseconds with ties to even.
-/

namespace StackSync

/-- A delay in whole nanoseconds. -/
structure Duration where
  nanos : Nat
  deriving DecidableEq, Repr, Inhabited

namespace Duration

def ofSeconds (n : Nat) : Duration := ⟨n * 1_000_000_000⟩

def zero : Duration := ⟨0⟩

def text (d : Duration) : String :=
  let fraction := toString (d.nanos % 1_000_000_000)
  toString (d.nanos / 1_000_000_000) ++ "." ++
    String.ofList (List.replicate (9 - fraction.length) '0') ++ fraction

/-- Seconds as a duration, rounded to nanoseconds; a duration has fewer than 2^64 seconds. -/
def ofBinary64? : Binary64 → Option Duration
  | .finite n =>
    if n < UInt64.size * Binary64.one then some ⟨roundDiv (n * 1_000_000_000) Binary64.one⟩ else none
  | .infinite => none

/-- Digits and points: the characters a number is made of. -/
def isNumeral (c : Char) : Bool := Text.isDigit c || c == '.'

/-- The numerals up to the next unit and the unit up to the next numeral, item after item. -/
def items (s : List Char) : List (List Char × List Char) :=
  match s with
  | [] => []
  | c :: rest =>
    let tail := (c :: rest).dropWhile isNumeral
    ((c :: rest).takeWhile isNumeral, tail.takeWhile (!isNumeral ·)) ::
      items (tail.dropWhile (!isNumeral ·))
  termination_by s.length
  decreasing_by
    simp only [List.length_cons]
    have drop_le : ∀ (p : Char → Bool) (l : List Char), (l.dropWhile p).length ≤ l.length :=
      fun p l => (List.dropWhile_sublist p).length_le
    cases h : isNumeral c with
    | true =>
      have h1 := drop_le (!isNumeral ·) (rest.dropWhile isNumeral)
      have h2 := drop_le isNumeral rest
      simp only [List.dropWhile_cons, h, if_true]
      omega
    | false =>
      have h1 := drop_le (!isNumeral ·) rest
      simp only [List.dropWhile_cons, h, Bool.false_eq_true, if_false, Bool.not_false, if_true]
      omega

/-- A decimal number: digits with at most one point among them, and at least one digit. -/
def number? (s : List Char) : Option Binary64 :=
  let whole := s.takeWhile (· != '.')
  let fraction := (s.dropWhile (· != '.')).drop 1
  if (whole ++ fraction).isEmpty || !(whole ++ fraction).all Text.isDigit then none
  else some (.ofScientific (Text.digitsValue (whole ++ fraction)) (-(fraction.length : Int)))

def unit? (s : List Char) : Option Binary64 :=
  match String.ofList s with
  | "ns" => some (.ofScientific 1 (-9))
  | "us" | "µs" => some (.ofScientific 1 (-6))
  | "ms" => some (.ofScientific 1 (-3))
  | "s" => some (.ofScientific 1 0)
  | "m" => some (.ofScientific 60 0)
  | "h" => some (.ofScientific 3600 0)
  | _ => none

def itemSeconds? (item : List Char × List Char) : Option Binary64 := do
  let value ← number? item.1
  let scale ← unit? item.2
  return value.mul scale

def total (seconds : List Binary64) : Binary64 := seconds.foldl .add .zero

def parse? (text : String) : Option Duration :=
  match Text.trimChars text.toList with
  | [] => none
  | ['0'] => some zero
  | s => (items s).mapM itemSeconds? >>= fun seconds => ofBinary64? (total seconds)

end Duration

end StackSync

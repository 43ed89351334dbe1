import StackSync.Number.Binary64

/-!
# The shortest decimal of a double

A message that quotes a number quotes the shortest decimal that reads back as the same double, and among
those the one nearest to it. `shortest` tries one digit, two digits and so on; on each decimal grid only the
two neighbours of the value can qualify, so two tests a grid decide. `Layout` says where positional
notation ends.
-/

namespace StackSync.Binary64

structure Decimal where
  digits : Nat
  exponent : Int
  deriving DecidableEq, Repr

/-- Whether a decimal, in quarters of a unit times `10 ^ places`, lies in the interval of numbers that
round to `n` units. -/
def roundsTo (n places : Nat) (quarters : Nat) : Bool :=
  let g := gap n
  let below := if n = 1 <<< n.log2 ∧ 1 < g then g else 2 * g
  let scale := Nat.pow 10 places
  let low := (4 * n - below) * scale
  let high := (4 * n + 2 * g) * scale
  let even := n / g % 2 = 0
  (low < quarters ∧ quarters < high) ∨ (even ∧ (quarters = low ∨ quarters = high))

/-- The decimal on the grid of `10 ^ exponent` that rounds to `n` units and is nearest to them. -/
def onGrid? (n : Nat) (exponent : Int) : Option Decimal :=
  let up := Nat.pow 10 exponent.toNat * one
  let places := (-exponent).toNat
  let value := n * Nat.pow 10 places
  let floor := value / up
  let candidates := [floor, floor + 1].filter fun d => roundsTo n places (4 * d * up)
  let distance := fun d => if d * up < value then value - d * up else d * up - value
  match candidates with
  | [] => none
  | [d] => some ⟨d, exponent⟩
  | d :: e :: _ =>
    if distance d < distance e ∨ (distance d = distance e ∧ d % 2 = 0) then some ⟨d, exponent⟩
    else some ⟨e, exponent⟩

/-- The exponent of the leading decimal digit of `n / 2^1074`, searched downwards from `top`. -/
def leading (n : Nat) : Nat → Int → Int
  | 0, e => e
  | steps + 1, e =>
    if Nat.pow 10 e.toNat * one ≤ n * Nat.pow 10 (-e).toNat then e else leading n steps (e - 1)

/-- The first grid with a hit, from one digit on; seventeen digits always suffice. -/
def searchGrids (n : Nat) (top : Int) : List Nat → Decimal
  | [] => ⟨0, 0⟩
  | d :: rest =>
    match onGrid? n (top - d) with
    | some dec => dec
    | none => searchGrids n top rest

/-- Takes trailing zeros off, at most as many as there can be digits. -/
def Decimal.normalize : Nat → Decimal → Decimal
  | 0, d => d
  | k + 1, d =>
    if d.digits ≠ 0 ∧ d.digits % 10 = 0 then normalize k ⟨d.digits / 10, d.exponent + 1⟩ else d

def shortest (n : Nat) : Decimal :=
  if n = 0 then ⟨0, 0⟩
  else (searchGrids n (leading n 640 309) (List.range 18)).normalize 18

/-- Positional notation runs from five places after the point to sixteen digits before it, always with a
point; beyond that a digit, the other digits and the power of ten are written. -/
def text (negative : Bool) (n : Nat) : String :=
  let d := shortest n
  let digits := toString d.digits
  let count : Int := digits.length
  let point := count + d.exponent
  let zeros := fun k : Int => String.ofList (List.replicate k.toNat '0')
  let body :=
    if n = 0 then "0.0"
    else if 0 ≤ d.exponent ∧ point ≤ 16 then digits ++ zeros d.exponent ++ ".0"
    else if 0 < point ∧ point ≤ 16 then
      String.ofList (digits.toList.take point.toNat) ++ "." ++
        String.ofList (digits.toList.drop point.toNat)
    else if -5 < point ∧ point ≤ 0 then "0." ++ zeros (-point) ++ digits
    else if count = 1 then digits ++ "e" ++ toString (point - 1)
    else String.ofList (digits.toList.take 1) ++ "." ++ String.ofList (digits.toList.drop 1) ++
      "e" ++ toString (point - 1)
  if negative then "-" ++ body else body

end StackSync.Binary64

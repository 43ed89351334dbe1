/-!
# Non-negative binary64 numbers, exactly

Delays are read and added in binary64 arithmetic, and the rounding shows in the answers (half a nanosecond
becomes a whole one, because the nearest double to a billionth lies above it). Every finite non-negative
double is a whole multiple of 2^-1074, so it is kept here as that multiple: sums and products are exact
integers, and the one operation with a choice in it is `ofUnits`, the rounding to the nearest double with
ties to the even mantissa.
-/

namespace StackSync

/-- A non-negative binary64 number: a count of units of 2^-1074, or infinity. -/
inductive Binary64 where
  | finite (units : Nat)
  | infinite
  deriving DecidableEq, Repr

/-- The whole number nearest to `num / den`; of two, the even one. -/
def roundDiv (num den : Nat) : Nat :=
  let q := num / den
  let r := num % den
  if den < 2 * r ∨ (2 * r = den ∧ q % 2 = 1) then q + 1 else q

namespace Binary64

def one : Nat := 1 <<< 1074

/-- The first count of units that is too large for a finite number. -/
def limit : Nat := 1 <<< 2098

/-- The distance between neighbouring doubles near `n` units: one unit up to 53 bits, and then as
much as keeps 53 bits. -/
def gap (n : Nat) : Nat := 1 <<< (n.log2 - 52)

def ofUnits (num den : Nat) : Binary64 :=
  let g := gap (num / den)
  let n := roundDiv num (den * g) * g
  if n < limit then finite n else infinite

/-- The double nearest to `digits * 10 ^ exponent`. Exponents past the range of the type are cut off
before the power is taken. -/
def ofScientific (digits : Nat) (exponent : Int) : Binary64 :=
  if digits = 0 then finite 0
  else if 400 < exponent then infinite
  else if exponent + (digits.log2 : Int) < -400 then finite 0
  else if 0 ≤ exponent then ofUnits (digits * Nat.pow 10 exponent.toNat * one) 1
  else ofUnits (digits * one) (Nat.pow 10 (-exponent).toNat)

def zero : Binary64 := finite 0

def add : Binary64 → Binary64 → Binary64
  | finite a, finite b => ofUnits (a + b) 1
  | _, _ => infinite

/-- The product; the library multiplies by finite positive scales only, so infinity stays infinity. -/
def mul : Binary64 → Binary64 → Binary64
  | finite a, finite b => ofUnits (a * b) one
  | _, _ => infinite

end Binary64

end StackSync

import Mathlib.Data.Nat.Dist
import StackSync.Number.Binary64

/-!
# Rounding is correct

A fraction is rounded to the nearest whole number, and a half to the even one (`RoundsTo`). Doubles
do not stand equally close: as far as 53 bits go they are all the whole numbers of units, and from
there on their gaps grow with them. So rounding to a double is rounding to a multiple of the gap at
that place. A double that is no such multiple is smaller than all that have this gap, and the smallest
of these is nearer (`nearest_of_roundsTo`). Of two neighbours one is odd, so there is one nearest
double (`Nearest.unique`), and sums, products and decimal numbers are what is nearest to them.
-/

namespace StackSync

variable {num den k j n r : Nat}

/-! ## Whole numbers -/

/-- `k` is the whole number nearest to `num / den`; of two, the even one. -/
structure RoundsTo (num den k : Nat) : Prop where
  close : 2 * Nat.dist num (k * den) ≤ den
  even : 2 * Nat.dist num (k * den) = den → k % 2 = 0

theorem roundDiv_roundsTo (hden : 0 < den) : RoundsTo num den (roundDiv num den) := by
  have hdiv : den * (num / den) + num % den = num := Nat.div_add_mod num den
  have hmod : num % den < den := Nat.mod_lt num hden
  have hmul : (num / den + 1) * den = den * (num / den) + den := by
    rw [Nat.add_mul, Nat.one_mul, Nat.mul_comm]
  by_cases hup : den < 2 * (num % den) ∨ (2 * (num % den) = den ∧ num / den % 2 = 1)
  · rw [roundDiv, if_pos hup]
    constructor <;> simp only [Nat.dist, hmul] <;> omega
  · rw [roundDiv, if_neg hup]
    constructor <;> simp only [Nat.dist, Nat.mul_comm (num / den)] <;> omega

/-- Two multiples cannot both be close. -/
theorem le_dist_add_dist (num den : Nat) (hne : j ≠ k) :
    den ≤ Nat.dist num (k * den) + Nat.dist num (j * den) := by
  rcases Nat.lt_or_gt_of_ne hne with hlt | hlt
  all_goals
    have hstep := Nat.mul_le_mul_right den hlt
    rw [Nat.succ_mul] at hstep
    simp only [Nat.dist]
    omega

namespace RoundsTo

variable (h : RoundsTo num den k)

include h

theorem nearest (j : Nat) : Nat.dist num (k * den) ≤ Nat.dist num (j * den) := by
  by_cases hne : j = k
  · rw [hne]
  · have hapart := le_dist_add_dist num den hne
    have hclose := h.close
    omega

theorem even_of_tie (hne : j ≠ k) (htie : Nat.dist num (j * den) = Nat.dist num (k * den)) :
    k % 2 = 0 := by
  have hapart := le_dist_add_dist num den hne
  have hclose := h.close
  exact h.even (by omega)

theorem unique (h' : RoundsTo num den j) (hden : 0 < den) : k = j := by
  -- two close numbers are both half a step away, and then both even: they are two steps apart
  by_contra hne
  have hapart := le_dist_add_dist num den hne
  have hclose := h.close
  have hclose' := h'.close
  have heven := h.even (by omega)
  have heven' := h'.even (by omega)
  rcases Nat.lt_or_gt_of_ne hne with hlt | hlt
  · have hstep := Nat.mul_le_mul_right den (show k + 2 ≤ j by omega)
    rw [Nat.add_mul] at hstep
    simp only [Nat.dist] at hclose hclose'
    omega
  · have hstep := Nat.mul_le_mul_right den (show j + 2 ≤ k by omega)
    rw [Nat.add_mul] at hstep
    simp only [Nat.dist] at hclose hclose'
    omega

theorem le_of_lt_mul {bound : Nat} (hnum : num < bound * den) : k ≤ bound := by
  by_contra hlt
  have hstep := Nat.mul_le_mul_right den (Nat.lt_of_not_le hlt)
  rw [Nat.succ_mul] at hstep
  have hclose := h.close
  simp only [Nat.dist] at hclose
  omega

theorem le_of_mul_le {bound : Nat} (hnum : bound * den ≤ num) (hden : 0 < den) : bound ≤ k := by
  by_contra hlt
  have hstep := Nat.mul_le_mul_right den (Nat.lt_of_not_le hlt)
  rw [Nat.succ_mul] at hstep
  have hclose := h.close
  simp only [Nat.dist] at hclose
  omega

end RoundsTo

/-! ## Doubles -/

namespace Binary64

/-- A number of units with no more than 53 significant bits. -/
def IsDouble (n : Nat) : Prop := ∃ m e, m < 2 ^ 53 ∧ n = m * 2 ^ e

/-- A double whose significand, written with as many of its 53 bits as there are, is even. -/
def IsEven (n : Nat) : Prop :=
  ∃ m e, m % 2 = 0 ∧ m < 2 ^ 53 ∧ (e = 0 ∨ 2 ^ 52 ≤ m) ∧ n = m * 2 ^ e

/-- `n` is the double nearest to `num / den`, exponents unbounded; of two, the even one. -/
structure Nearest (num den n : Nat) : Prop where
  double : IsDouble n
  nearest : ∀ r, IsDouble r → Nat.dist num (n * den) ≤ Nat.dist num (r * den)
  even : ∀ r, IsDouble r → r ≠ n → Nat.dist num (r * den) = Nat.dist num (n * den) → IsEven n

/-- The exponent of the distance between neighbours. -/
def gapExponent (n : Nat) : Nat := n.log2 - 52

theorem gap_eq (n : Nat) : gap n = 2 ^ gapExponent n := Nat.one_shiftLeft _

/-- Where 53 bits do not reach down to the units, all of them are used. -/
theorem gap_bounds (n : Nat) :
    n < 2 ^ 53 * 2 ^ gapExponent n ∧ (gapExponent n = 0 ∨ 2 ^ 52 * 2 ^ gapExponent n ≤ n) := by
  have hupper : n < 2 ^ (n.log2 + 1) := Nat.lt_log2_self
  constructor
  · rw [← Nat.pow_add]
    refine Nat.lt_of_lt_of_le hupper (Nat.pow_le_pow_right (by decide) ?_)
    unfold gapExponent
    omega
  · by_cases hsmall : gapExponent n = 0
    · exact .inl hsmall
    · right
      unfold gapExponent at hsmall ⊢
      have hne : n ≠ 0 := by
        rintro rfl
        exact hsmall rfl
      rw [← Nat.pow_add, Nat.add_sub_cancel' (by omega)]
      exact Nat.log2_self_le hne

theorem isDouble_of_le {e : Nat} (hk : k ≤ 2 ^ 53) : IsDouble (k * 2 ^ e) := by
  rcases Nat.lt_or_eq_of_le hk with hlt | rfl
  · exact ⟨k, e, hlt, rfl⟩
  · exact ⟨1, 53 + e, by decide, by rw [Nat.pow_add, Nat.one_mul]⟩

/-- One bit more is one exponent more. -/
theorem two_pow_53_mul (e : Nat) : 2 ^ 53 * 2 ^ e = 2 ^ 52 * 2 ^ (e + 1) := by
  rw [← Nat.pow_add, ← Nat.pow_add]
  congr 1
  omega

theorem isEven_of_le {e : Nat} (hk : k ≤ 2 ^ 53) (heven : k % 2 = 0) (hbits : e = 0 ∨ 2 ^ 52 ≤ k) :
    IsEven (k * 2 ^ e) := by
  rcases Nat.lt_or_eq_of_le hk with hlt | rfl
  · exact ⟨k, e, heven, hlt, hbits, rfl⟩
  · exact ⟨2 ^ 52, e + 1, by decide, by decide, .inr (Nat.le_refl _), two_pow_53_mul e⟩

/-- A double is a multiple of a gap or lies below the doubles that have this gap. -/
theorem IsDouble.multiple_or_lt (h : IsDouble r) (e : Nat) :
    (∃ j, r = j * 2 ^ e) ∨ (e ≠ 0 ∧ r < 2 ^ 52 * 2 ^ e) := by
  obtain ⟨m, f, hm, rfl⟩ := h
  by_cases hf : e ≤ f
  · left
    refine ⟨m * 2 ^ (f - e), ?_⟩
    rw [Nat.mul_assoc, ← Nat.pow_add, Nat.sub_add_cancel hf]
  · right
    refine ⟨by omega, ?_⟩
    have hstep : 2 ^ (f + 1) ≤ 2 ^ e := Nat.pow_le_pow_right (by decide) (by omega)
    calc
      m * 2 ^ f < 2 ^ 53 * 2 ^ f := Nat.mul_lt_mul_of_pos_right hm (Nat.two_pow_pos f)
      _ = 2 ^ 52 * 2 ^ (f + 1) := two_pow_53_mul f
      _ ≤ 2 ^ 52 * 2 ^ e := Nat.mul_le_mul_left _ hstep

theorem mul_two_pow_mul (j e den : Nat) : j * 2 ^ e * den = j * (den * 2 ^ e) := by
  rw [Nat.mul_assoc, Nat.mul_comm (2 ^ e)]

theorem nearest_of_roundsTo {e : Nat} (h : RoundsTo num (den * 2 ^ e) k) (hden : 0 < den)
    (hupper : num < 2 ^ 53 * (den * 2 ^ e)) (hlower : e = 0 ∨ 2 ^ 52 * (den * 2 ^ e) ≤ num) :
    Nearest num den (k * 2 ^ e) := by
  have hgap : 0 < den * 2 ^ e := Nat.mul_pos hden (Nat.two_pow_pos e)
  have hk : k ≤ 2 ^ 53 := h.le_of_lt_mul hupper
  have hbits : e = 0 ∨ 2 ^ 52 ≤ k := hlower.imp_right fun hle => h.le_of_mul_le hle hgap
  -- a double that is no multiple of the gap lies below a multiple that is nearer
  have hfiner : ∀ r, e ≠ 0 → r < 2 ^ 52 * 2 ^ e →
      Nat.dist num (k * (den * 2 ^ e)) < Nat.dist num (r * den) := by
    intro r he hr
    have hle := hlower.resolve_left he
    have hbelow := Nat.mul_lt_mul_of_pos_right hr hden
    rw [mul_two_pow_mul] at hbelow
    have hnearest := h.nearest (2 ^ 52)
    simp only [Nat.dist] at hnearest ⊢
    omega
  refine ⟨isDouble_of_le hk, fun r hr => ?_, fun r hr hne htie => ?_⟩
  · rw [mul_two_pow_mul]
    rcases hr.multiple_or_lt e with ⟨j, rfl⟩ | ⟨he, hlt⟩
    · rw [mul_two_pow_mul]
      exact h.nearest j
    · exact Nat.le_of_lt (hfiner r he hlt)
  · rw [mul_two_pow_mul] at htie
    rcases hr.multiple_or_lt e with ⟨j, rfl⟩ | ⟨he, hlt⟩
    · rw [mul_two_pow_mul] at htie
      have hjk : j ≠ k := fun heq => hne (by rw [heq])
      exact isEven_of_le hk (h.even_of_tie hjk htie) hbits
    · have hstrict := hfiner r he hlt
      omega

/-- Two even doubles are no neighbours, since of two neighbours one is odd. -/
theorem IsEven.not_adjacent {m e : Nat} (heven : m % 2 = 0) (hbits : e = 0 ∨ 2 ^ 52 ≤ m) :
    ¬IsEven ((m + 1) * 2 ^ e) := by
  rintro ⟨m', e', heven', hm', -, heq⟩
  by_cases hle : e ≤ e'
  · obtain ⟨f, rfl⟩ := Nat.exists_eq_add_of_le hle
    rw [Nat.pow_add, Nat.mul_comm (2 ^ e), ← Nat.mul_assoc] at heq
    have hodd : m + 1 = m' * 2 ^ f := Nat.eq_of_mul_eq_mul_right (Nat.two_pow_pos e) heq
    have hparity : m' * 2 ^ f % 2 = 0 := by rw [Nat.mul_mod, heven', Nat.zero_mul, Nat.zero_mod]
    omega
  · obtain ⟨f, rfl⟩ := Nat.exists_eq_add_of_lt (Nat.lt_of_not_le hle)
    have hsplit : 2 ^ (e' + f + 1) = 2 ^ (f + 1) * 2 ^ e' := by
      rw [← Nat.pow_add]
      congr 1
      omega
    rw [hsplit, ← Nat.mul_assoc] at heq
    have hlarge : (m + 1) * 2 ^ (f + 1) = m' := Nat.eq_of_mul_eq_mul_right (Nat.two_pow_pos e') heq
    have htwo : 2 ≤ 2 ^ (f + 1) := by
      rw [Nat.pow_succ']
      exact Nat.le_mul_of_pos_right 2 (Nat.two_pow_pos f)
    have hstep := Nat.mul_le_mul_left (m + 1) htwo
    have hlower := hbits.resolve_left (by omega)
    omega

theorem Nearest.not_lt {n n' : Nat} (h : Nearest num den n) (h' : Nearest num den n')
    (hden : 0 < den) : ¬n < n' := by
  intro hlt
  have htie : Nat.dist num (n * den) = Nat.dist num (n' * den) :=
    Nat.le_antisymm (h.nearest n' h'.double) (h'.nearest n h.double)
  have hmul := Nat.mul_lt_mul_of_pos_right hlt hden
  have heven' := h'.even n h.double (Nat.ne_of_lt hlt) htie
  obtain ⟨m, e, heven, hm, hbits, rfl⟩ := h.even n' h'.double (Nat.ne_of_gt hlt) htie.symm
  have hnext : m * 2 ^ e < (m + 1) * 2 ^ e :=
    Nat.mul_lt_mul_of_pos_right (Nat.lt_succ_self m) (Nat.two_pow_pos e)
  -- the neighbour above the one is the other: between them it would be nearer than both
  have hle : n' ≤ (m + 1) * 2 ^ e := by
    by_contra hbetween
    have hdouble : IsDouble ((m + 1) * 2 ^ e) := isDouble_of_le hm
    have hnearest := h.nearest _ hdouble
    have hlower := Nat.mul_lt_mul_of_pos_right hnext hden
    have hupper := Nat.mul_lt_mul_of_pos_right (Nat.lt_of_not_le hbetween) hden
    simp only [Nat.dist] at hnearest htie
    omega
  rcases h'.double.multiple_or_lt e with ⟨j, rfl⟩ | ⟨he, hbelow⟩
  · have hj : j = m + 1 := by
      have hfirst := Nat.lt_of_mul_lt_mul_right hlt
      have hlast := Nat.le_of_mul_le_mul_right hle (Nat.two_pow_pos e)
      omega
    rw [hj] at heven'
    exact IsEven.not_adjacent heven hbits heven'
  · have hlower := Nat.mul_le_mul_right (2 ^ e) (hbits.resolve_left he)
    omega

theorem Nearest.unique {n n' : Nat} (h : Nearest num den n) (h' : Nearest num den n')
    (hden : 0 < den) : n = n' :=
  Nat.le_antisymm (Nat.le_of_not_lt (h'.not_lt h hden)) (Nat.le_of_not_lt (h.not_lt h' hden))

/-- The number nearest to `num / den`: infinity, if with exponents unbounded it is too large. -/
inductive Rounds (num den : Nat) : Binary64 → Prop
  | finite {n : Nat} : Nearest num den n → n < limit → Rounds num den (.finite n)
  | infinite {n : Nat} : Nearest num den n → limit ≤ n → Rounds num den .infinite

theorem Rounds.unique {x y : Binary64} (hden : 0 < den) (h : Rounds num den x)
    (h' : Rounds num den y) : x = y := by
  cases h with
  | finite hn hlt =>
    cases h' with
    | finite hn' hlt' => rw [hn.unique hn' hden]
    | infinite hn' hle => exact absurd (hn.unique hn' hden ▸ hlt) (Nat.not_lt.2 hle)
  | infinite hn hle =>
    cases h' with
    | finite hn' hlt => exact absurd (hn'.unique hn hden ▸ hlt) (Nat.not_lt.2 hle)
    | infinite _ _ => rfl

theorem ofUnits_rounds (hden : 0 < den) : Rounds num den (ofUnits num den) := by
  obtain ⟨hupper, hlower⟩ := gap_bounds (num / den)
  rw [Nat.div_lt_iff_lt_mul hden] at hupper
  rw [Nat.le_div_iff_mul_le hden] at hlower
  rw [mul_two_pow_mul] at hupper hlower
  have hround : RoundsTo num (den * 2 ^ gapExponent (num / den)) _ :=
    roundDiv_roundsTo (Nat.mul_pos hden (Nat.two_pow_pos _))
  have hnearest := nearest_of_roundsTo hround hden hupper hlower
  rw [ofUnits, gap_eq]
  by_cases hlimit : roundDiv num (den * 2 ^ gapExponent (num / den)) *
      2 ^ gapExponent (num / den) < limit
  · rw [if_pos hlimit]
    exact .finite hnearest hlimit
  · rw [if_neg hlimit]
    exact .infinite hnearest (Nat.le_of_not_lt hlimit)

theorem Rounds.isDouble (h : Rounds num den (.finite n)) : IsDouble n := by
  cases h with
  | finite hn _ => exact hn.double

/-! ## Sums, products and decimal numbers -/

/-- The exponent of one, counted in units. -/
def oneExponent : Nat := 1074

theorem one_eq : one = 2 ^ oneExponent := Nat.one_shiftLeft oneExponent

theorem one_pos : 0 < one := by decide

theorem limit_pos : 0 < limit := by decide

/-- The sum of two numbers, rounded. -/
inductive IsSum : Binary64 → Binary64 → Binary64 → Prop
  | finite {a b : Nat} {x : Binary64} : Rounds (a + b) 1 x → IsSum (.finite a) (.finite b) x
  | left {y : Binary64} : IsSum .infinite y .infinite
  | right {x : Binary64} : IsSum x .infinite .infinite

/-- The product of two numbers of which the second is finite and positive, rounded. -/
inductive IsProduct : Binary64 → Binary64 → Binary64 → Prop
  | finite {a b : Nat} {x : Binary64} : Rounds (a * b) one x → IsProduct (.finite a) (.finite b) x
  | infinite {b : Nat} : IsProduct .infinite (.finite b) .infinite

theorem add_isSum (x y : Binary64) : IsSum x y (x.add y) := by
  cases x with
  | infinite => exact .left
  | finite a =>
    cases y with
    | infinite => exact .right
    | finite b => exact .finite (ofUnits_rounds Nat.one_pos)

theorem IsSum.unique {x y z : Binary64} (h : IsSum x y z) : z = x.add y := by
  cases h with
  | finite h => exact h.unique Nat.one_pos (ofUnits_rounds Nat.one_pos)
  | left => rfl
  | right => cases x <;> rfl

theorem mul_isProduct (x : Binary64) (b : Nat) : IsProduct x (.finite b) (x.mul (.finite b)) := by
  cases x with
  | infinite => exact .infinite
  | finite a => exact .finite (ofUnits_rounds one_pos)

theorem IsProduct.unique {x y z : Binary64} (h : IsProduct x y z) : z = x.mul y := by
  cases h with
  | finite h => exact h.unique one_pos (ofUnits_rounds one_pos)
  | infinite => rfl

/-- Less than half a unit is rounded to nothing. -/
theorem rounds_zero (h : 2 * num ≤ den) (hden : 0 < den) : Rounds num den (.finite 0) := by
  have hround : RoundsTo num (den * 2 ^ 0) 0 := by
    constructor
    · simp only [Nat.dist]
      omega
    · exact fun _ => rfl
  have hnearest := nearest_of_roundsTo hround hden (by omega) (.inl rfl)
  rw [Nat.zero_mul] at hnearest
  exact .finite hnearest limit_pos

/-- A decimal number with so many places that its first digit is far below one unit. -/
theorem two_mul_le_of_many_places {digits places : Nat} (h : digits.log2 + 400 < places) :
    2 * (digits * one) ≤ 10 ^ places := by
  have hdigits : digits ≤ 2 ^ (digits.log2 + 1) := Nat.le_of_lt Nat.lt_log2_self
  calc
    2 * (digits * one) ≤ 2 * (2 ^ (digits.log2 + 1) * one) :=
      Nat.mul_le_mul_left 2 (Nat.mul_le_mul_right one hdigits)
    _ = 2 ^ (digits.log2 + 1 + oneExponent + 1) := by
      rw [one_eq, ← Nat.pow_add, ← Nat.pow_succ']
    _ ≤ 2 ^ (3 * places) := Nat.pow_le_pow_right (by decide) (by unfold oneExponent; omega)
    _ = 8 ^ places := by rw [Nat.pow_mul]
    _ ≤ 10 ^ places := Nat.pow_le_pow_left (by decide) places

/-- The number with these digits of which so many stand behind the point, rounded. -/
theorem ofScientific_rounds (digits places : Nat) :
    Rounds (digits * one) (10 ^ places) (ofScientific digits (-(places : Int))) := by
  have hden : 0 < 10 ^ places := Nat.pow_pos (by decide)
  by_cases hzero : digits = 0
  · subst hzero
    exact rounds_zero (by omega) hden
  · by_cases htiny : -(places : Int) + (digits.log2 : Int) < -400
    · rw [ofScientific, if_neg hzero, if_neg (by omega), if_pos htiny]
      exact rounds_zero (two_mul_le_of_many_places (by omega)) hden
    · by_cases hwhole : 0 ≤ -(places : Int)
      · obtain rfl : places = 0 := by omega
        rw [ofScientific, if_neg hzero, if_neg (by omega), if_neg htiny, if_pos hwhole]
        show Rounds (digits * one) 1 (ofUnits (digits * 1 * one) 1)
        rw [Nat.mul_one]
        exact ofUnits_rounds Nat.one_pos
      · rw [ofScientific, if_neg hzero, if_neg (by omega), if_neg htiny, if_neg hwhole, Int.neg_neg,
          Int.toNat_natCast]
        exact ofUnits_rounds hden

end Binary64

end StackSync

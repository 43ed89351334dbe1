import StackSync.Text.Hex
import StackSync.Text.Integer

/-!
# Numbers, written and read

The digits a number is written with are read back as the number, they do not begin with a zero
unless there is nothing else to write, and where a text goes on with something that is no digit they
are the whole run. A hexadecimal digit is read back as well.
-/

namespace StackSync.Text

/-- The digits of a whole number, behind a dash if it is negative. -/
theorem toList_toString_int (a : Int) :
    (toString a).toList =
      if 0 ≤ a then Nat.toDigits 10 a.toNat else '-' :: Nat.toDigits 10 (-a).toNat := by
  rw [Int.toString_eq_repr, Int.repr_eq_if]
  split
  · exact Nat.toList_repr
  · rw [String.toList_append, Nat.toList_repr]
    rfl

theorem isDigit_of_mem_toDigits {n : Nat} {c : Char} (h : c ∈ Nat.toDigits 10 n) : isDigit c = true :=
  Nat.isDigit_of_mem_toDigits (by omega) (by omega) h

/-- Digits never start with a dash. -/
theorem digits_ne_dash_cons {n : Nat} {t u : List Char} : Nat.toDigits 10 n ++ t ≠ '-' :: u := by
  intro h
  cases hdigits : Nat.toDigits 10 n with
  | nil => exact Nat.toDigits_ne_nil hdigits
  | cons c cs =>
    rw [hdigits, List.cons_append, List.cons.injEq] at h
    have hdigit : isDigit c = true :=
      isDigit_of_mem_toDigits (n := n) (by rw [hdigits]; exact List.mem_cons_self)
    rw [h.1] at hdigit
    cases hdigit

theorem digitsValue_toDigits (n : Nat) : digitsValue (Nat.toDigits 10 n) = n :=
  Nat.ofDigitChars_ten_toDigits

/-- Only zero itself is written with a zero in front. -/
theorem head?_toDigits_ne_zero {n : Nat} (h : 0 < n) : (Nat.toDigits 10 n).head? ≠ some '0' := by
  induction n using Nat.strongRecOn with
  | ind n ih =>
    by_cases hsmall : n < 10
    · have hone : ∀ m < 10, 0 < m → ([m.digitChar] : List Char).head? ≠ some '0' := by decide
      rw [Nat.toDigits_of_lt_base hsmall]
      exact hone n hsmall h
    · have hstep : Nat.toDigits 10 n = Nat.toDigits 10 (n / 10) ++ [(n % 10).digitChar] :=
        Nat.toDigits_of_base_le (by omega) (by omega)
      rw [hstep, List.head?_append]
      cases hhead : (Nat.toDigits 10 (n / 10)).head? with
      | none => exact absurd (List.head?_eq_none_iff.1 hhead) Nat.toDigits_ne_nil
      | some c =>
        rw [Option.some_or, ← hhead]
        exact ih (n / 10) (by omega) (by omega)

theorem hexValue?_hexDigit {n : Nat} (h : n < 16) : hexValue? (hexDigit n) = some n := by
  have hall : ∀ n < 16, hexValue? (hexDigit n) = some n := by decide
  exact hall n h

/-- The text does not go on with a digit. -/
def EndsDigits (rest : List Char) : Prop := ∀ c ∈ rest.head?, isDigit c = false

section

variable {rest : List Char} (h : EndsDigits rest) (n : Nat)

include h

theorem takeWhile_toDigits : (Nat.toDigits 10 n ++ rest).takeWhile isDigit = Nat.toDigits 10 n := by
  have hrest : rest.takeWhile isDigit = [] := by
    cases rest with
    | nil => rfl
    | cons c cs => exact List.takeWhile_cons_of_neg (by simp [h c rfl])
  rw [List.takeWhile_append_of_pos fun c hc => isDigit_of_mem_toDigits hc, hrest, List.append_nil]

theorem dropWhile_toDigits : (Nat.toDigits 10 n ++ rest).dropWhile isDigit = rest := by
  have hrest : rest.dropWhile isDigit = rest := by
    cases rest with
    | nil => rfl
    | cons c cs => exact List.dropWhile_cons_of_neg (by simp [h c rfl])
  rw [List.dropWhile_append_of_pos fun c hc => isDigit_of_mem_toDigits hc, hrest]

end

end StackSync.Text

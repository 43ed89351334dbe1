import Mathlib.Data.List.TakeWhile
import StackSync.Text.Blank
import StackSync.Text.Cut

/-!
# Trimming and cutting

What is trimmed off a text is white space at its ends, and what is left has none there, so a text
without white space at its ends comes back from any that is put around it (`trimChars_append`). A
cut at a separator is undone by writing the separator again: the first one divides a text into parts
of which the one before has no separator (`cut?_append`), and all of them divide it into the only
pieces without a separator that can be joined to it (`pieces_intercalate`, `intercalate_pieces`).
-/

namespace StackSync.Text

variable {s t before behind : List Char} {sep : Char}

/-! ## White space at the ends -/

theorem trimStart_eq_self {s : List Char} (h : ∀ c ∈ s.head?, isBlank c = false) :
    trimStart s = s := by
  cases s with
  | nil => rfl
  | cons c rest => exact List.dropWhile_cons_of_neg (by simp [h c rfl])

theorem trimEnd_eq_self {s : List Char} (h : ∀ c ∈ s.getLast?, isBlank c = false) :
    trimEnd s = s := by
  have hreverse : trimStart s.reverse = s.reverse := trimStart_eq_self (by rwa [List.head?_reverse])
  show (trimStart s.reverse).reverse = s
  rw [hreverse, List.reverse_reverse]

theorem trimChars_eq_self {s : List Char} (hfirst : ∀ c ∈ s.head?, isBlank c = false)
    (hlast : ∀ c ∈ s.getLast?, isBlank c = false) : trimChars s = s := by
  rw [trimChars, trimStart_eq_self hfirst, trimEnd_eq_self hlast]

theorem not_isBlank_head?_trimStart (s : List Char) :
    ∀ c ∈ (trimStart s).head?, isBlank c = false := by
  intro c hc
  have hhead := List.head?_dropWhile_not isBlank s
  rw [trimStart] at hc
  rw [Option.mem_def.1 hc] at hhead
  simpa using hhead

theorem not_isBlank_getLast?_trimEnd (s : List Char) :
    ∀ c ∈ (trimEnd s).getLast?, isBlank c = false := by
  intro c hc
  rw [trimEnd, List.getLast?_reverse] at hc
  exact not_isBlank_head?_trimStart s.reverse c hc

theorem trimEnd_prefix (s : List Char) : trimEnd s <+: s := by
  have hsuffix : s.reverse.dropWhile isBlank <:+ s.reverse := List.dropWhile_suffix _
  have hstarts := List.reverse_prefix.2 hsuffix
  rwa [List.reverse_reverse] at hstarts

theorem not_isBlank_head?_trimChars (s : List Char) :
    ∀ c ∈ (trimChars s).head?, isBlank c = false := by
  intro c hc
  obtain ⟨rest, hrest⟩ := trimEnd_prefix (trimStart s)
  refine not_isBlank_head?_trimStart s c ?_
  rw [← hrest, List.head?_append]
  rw [Option.mem_def] at hc ⊢
  rw [show trimEnd (trimStart s) = trimChars s from rfl, hc]
  rfl

theorem trimChars_trimChars (s : List Char) : trimChars (trimChars s) = trimChars s :=
  trimChars_eq_self (not_isBlank_head?_trimChars s) (not_isBlank_getLast?_trimEnd (trimStart s))

/-- White space and nothing else. -/
def Blank (s : List Char) : Prop := ∀ c ∈ s, isBlank c = true

/-- No white space at either end. -/
def Tight (s : List Char) : Prop :=
  (∀ c ∈ s.head?, isBlank c = false) ∧ ∀ c ∈ s.getLast?, isBlank c = false

instance (s : List Char) : Decidable (Blank s) := List.decidableBAll _ s

instance (s : List Char) : Decidable (Tight s) :=
  decidable_of_iff (s.head?.all (!isBlank ·) = true ∧ s.getLast?.all (!isBlank ·) = true) <| by
    simp only [Tight, Option.all_eq_true, Option.mem_def, Bool.not_eq_true']

theorem tight_trimChars (s : List Char) : Tight (trimChars s) :=
  ⟨not_isBlank_head?_trimChars s, not_isBlank_getLast?_trimEnd (trimStart s)⟩

theorem exists_eq_append_trimStart (s : List Char) :
    ∃ before, Blank before ∧ s = before ++ trimStart s :=
  ⟨s.takeWhile isBlank, fun _ hc => List.mem_takeWhile_imp hc, List.takeWhile_append_dropWhile.symm⟩

theorem exists_eq_trimEnd_append (s : List Char) :
    ∃ behind, Blank behind ∧ s = trimEnd s ++ behind := by
  obtain ⟨before, hbefore, heq⟩ := exists_eq_append_trimStart s.reverse
  refine ⟨before.reverse, fun c hc => hbefore c (List.mem_reverse.1 hc), ?_⟩
  rw [← List.reverse_inj, List.reverse_append, List.reverse_reverse, trimEnd, List.reverse_reverse]
  exact heq

/-- What is trimmed off is white space at the ends. -/
theorem exists_eq_append_trimChars (s : List Char) :
    ∃ before behind, Blank before ∧ Blank behind ∧ s = before ++ trimChars s ++ behind := by
  obtain ⟨before, hbefore, hstart⟩ := exists_eq_append_trimStart s
  obtain ⟨behind, hbehind, hend⟩ := exists_eq_trimEnd_append (trimStart s)
  refine ⟨before, behind, hbefore, hbehind, ?_⟩
  rw [List.append_assoc, trimChars, ← hend]
  exact hstart

theorem trimStart_append (hbefore : Blank before) (s : List Char) :
    trimStart (before ++ s) = trimStart s :=
  List.dropWhile_append_of_pos hbefore

theorem trimEnd_append (hbehind : Blank behind) (s : List Char) :
    trimEnd (s ++ behind) = trimEnd s := by
  have hreverse : Blank behind.reverse := fun c hc => hbehind c (List.mem_reverse.1 hc)
  show (trimStart (s ++ behind).reverse).reverse = (trimStart s.reverse).reverse
  rw [List.reverse_append, trimStart_append hreverse]

/-- White space around a text without any at its ends is what is taken off. -/
theorem trimChars_append (hbefore : Blank before) (ht : Tight t) (hbehind : Blank behind) :
    trimChars (before ++ t ++ behind) = t := by
  rw [trimChars, List.append_assoc, trimStart_append hbefore]
  cases t with
  | nil =>
    have hnothing := trimStart_append hbehind []
    rw [List.append_nil] at hnothing
    rw [List.nil_append, hnothing]
    rfl
  | cons c rest =>
    have hstart : trimStart (c :: rest ++ behind) = c :: rest ++ behind := trimStart_eq_self ht.1
    rw [hstart, trimEnd_append hbehind, trimEnd_eq_self ht.2]

theorem trimChars_eq_nil_iff : trimChars s = [] ↔ Blank s := by
  constructor
  · intro h
    obtain ⟨before, behind, hbefore, hbehind, heq⟩ := exists_eq_append_trimChars s
    rw [h, List.append_nil] at heq
    rw [heq]
    exact fun c hc => (List.mem_append.1 hc).elim (hbefore c) (hbehind c)
  · intro h
    have hnothing : trimChars (s ++ [] ++ []) = [] := trimChars_append h ⟨nofun, nofun⟩ nofun
    rwa [List.append_nil, List.append_nil] at hnothing

/-! ## The first separator -/

theorem cut?_append {before : List Char} (h : sep ∉ before) (behind : List Char) :
    cut? sep (before ++ sep :: behind) = some (before, behind) := by
  induction before with
  | nil => simp [cut?]
  | cons c rest ih =>
    simp only [List.mem_cons, not_or] at h
    simp [cut?, Ne.symm h.1, ih h.2]

theorem cut?_eq_none_iff : cut? sep s = none ↔ sep ∉ s := by
  constructor
  · intro h hmem
    obtain ⟨before, behind, rfl, hbefore⟩ := List.eq_append_cons_of_mem hmem
    rw [cut?_append hbefore] at h
    cases h
  · intro h
    cases hcut : cut? sep s with
    | none => rfl
    | some parts => exact absurd ((cut?_eq_some hcut).1 ▸ by simp) h

/-! ## All separators -/

section Pieces

variable {α : Type} [DecidableEq α] {sep : α} {s before : List α}

theorem pieces_of_not_mem (h : sep ∉ s) : pieces sep s = [s] := by
  induction s with
  | nil => rfl
  | cons c rest ih =>
    rw [List.mem_cons, not_or] at h
    rw [pieces, if_neg (Ne.symm h.1), ih h.2]

theorem pieces_append (h : sep ∉ before) (behind : List α) :
    pieces sep (before ++ sep :: behind) = before :: pieces sep behind := by
  induction before with
  | nil => rw [List.nil_append, pieces, if_pos rfl]
  | cons c rest ih =>
    rw [List.mem_cons, not_or] at h
    rw [List.cons_append, pieces, if_neg (Ne.symm h.1), ih h.2]

theorem pieces_intercalate {parts : List (List α)} (hne : parts ≠ [])
    (h : ∀ part ∈ parts, sep ∉ part) : pieces sep ([sep].intercalate parts) = parts := by
  induction parts with
  | nil => exact absurd rfl hne
  | cons part more ih =>
    obtain ⟨hpart, hmore⟩ := List.forall_mem_cons.1 h
    cases more with
    | nil =>
      rw [List.intercalate_singleton]
      exact pieces_of_not_mem hpart
    | cons next more =>
      rw [List.intercalate_cons_cons, List.append_assoc, List.singleton_append, pieces_append hpart,
        ih (List.cons_ne_nil _ _) hmore]

theorem not_mem_of_mem_pieces {part : List α} (h : part ∈ pieces sep s) : sep ∉ part := by
  induction s generalizing part with
  | nil =>
    rw [pieces, List.mem_singleton] at h
    exact h ▸ List.not_mem_nil
  | cons c rest ih =>
    rw [pieces] at h
    split at h
    · rcases List.mem_cons.1 h with rfl | h
      · exact List.not_mem_nil
      · exact ih h
    · next hc =>
      cases hpieces : pieces sep rest with
      | nil => exact absurd hpieces (pieces_ne_nil sep rest)
      | cons first more =>
        rw [hpieces] at h ih
        rcases List.mem_cons.1 h with rfl | h
        · rw [List.mem_cons, not_or]
          exact ⟨Ne.symm hc, ih List.mem_cons_self⟩
        · exact ih (List.mem_cons_of_mem _ h)

theorem intercalate_pieces (sep : α) (s : List α) :
    [sep].intercalate (pieces sep s) = s := by
  induction s with
  | nil => rfl
  | cons c rest ih =>
    rw [pieces]
    cases hpieces : pieces sep rest with
    | nil => exact absurd hpieces (pieces_ne_nil sep rest)
    | cons first more =>
      rw [hpieces] at ih
      split
      · next hc =>
        rw [List.intercalate_cons_cons, ih, hc]
        rfl
      · show [sep].intercalate ((c :: first) :: more) = c :: rest
        rw [← ih]
        cases more with
        | nil => rw [List.intercalate_singleton, List.intercalate_singleton]
        | cons next more => rw [List.intercalate_cons_cons, List.intercalate_cons_cons]; rfl

end Pieces

end StackSync.Text

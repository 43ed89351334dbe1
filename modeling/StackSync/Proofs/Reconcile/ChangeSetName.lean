import StackSync.Proofs.Artifact.Advertised
import StackSync.Proofs.Text.Numerals
import StackSync.Reconcile.ChangeSetName

/-!
# What the names of change sets look like

A name is made of letters, digits and dashes only, whatever the revision is, so nothing that has a
meaning in an ARN occurs in it. It is never too long, and it has the greatest length whenever the
revision is cut: then it ends with the start of the digest of the revision. And it says which
generation it was made for: after the fixed start, the digits up to the next dash are those of the
generation, and two names that agree were made for the same one. Revisions that fit are told apart
by their names as far as they are written differently; others may be written alike.
-/

namespace StackSync

namespace ChangeSetName

def Admitted (c : Char) : Prop := c.isAlphanum = true ∨ c = '-'

theorem admitted_iff {c : Char} : Admitted c ↔ (c.isAlphanum || c == '-') = true := by
  rw [Admitted, Bool.or_eq_true, beq_iff_eq]

theorem char_of_admitted {c : Char} (h : Admitted c) : char c = c := if_pos (admitted_iff.1 h)

theorem char_of_not_admitted {c : Char} (h : ¬ Admitted c) : char c = '-' :=
  if_neg (mt admitted_iff.2 h)

theorem admitted_char (c : Char) : Admitted (char c) := by
  by_cases h : Admitted c
  · rwa [char_of_admitted h]
  · rw [char_of_not_admitted h]
    exact .inr rfl

theorem admitted_of_isDigit {c : Char} (h : c.isDigit = true) : Admitted c := by
  left
  rw [Char.isAlphanum, h, Bool.or_true]

theorem admitted_hexDigit {n : Nat} (h : n < 16) : Admitted (Text.hexDigit n) := by
  left
  have hall : ∀ n < 16, (Text.hexDigit n).isAlphanum = true := by decide
  exact hall n h

theorem admitted_of_mem_digest {revision : String} {c : Char} (h : c ∈ digest revision) :
    Admitted c := by
  obtain ⟨n, hn, rfl⟩ := Digest.Algorithm.exists_of_mem_hexDigest (List.mem_of_mem_take h)
  exact admitted_hexDigit hn

/-! ## The generation in a name -/

/-- The digits of a generation, behind a dash if it is negative. -/
def numeral (a : Int) : List Char := (toString a).toList

theorem numeral_eq (a : Int) :
    numeral a = if 0 ≤ a then Nat.toDigits 10 a.toNat else '-' :: Nat.toDigits 10 (-a).toNat :=
  Text.toList_toString_int a

theorem admitted_of_mem_numeral {a : Int} {c : Char} (h : c ∈ numeral a) : Admitted c := by
  have hdigit : ∀ {n : Nat}, c ∈ Nat.toDigits 10 n → Admitted c := fun hc =>
    admitted_of_isDigit (Nat.isDigit_of_mem_toDigits (by omega) (by omega) hc)
  rw [numeral_eq] at h
  split at h
  · exact hdigit h
  · rcases List.mem_cons.1 h with rfl | h
    · exact .inr rfl
    · exact hdigit h

theorem digits_before_dash_inj {m n : Nat} {t u : List Char}
    (h : Nat.toDigits 10 m ++ '-' :: t = Nat.toDigits 10 n ++ '-' :: u) : m = n := by
  have hread : ∀ (k : Nat) (v : List Char),
      (Nat.toDigits 10 k ++ '-' :: v).takeWhile Char.isDigit = Nat.toDigits 10 k := by
    intro k v
    rw [List.takeWhile_append_of_pos
        fun c hc => Nat.isDigit_of_mem_toDigits (by omega) (by omega) hc,
      List.takeWhile_cons_of_neg (by simp), List.append_nil]
  have hdigits : Nat.toDigits 10 m = Nat.toDigits 10 n := by
    rw [← hread m t, h, hread n u]
  calc m = Nat.ofDigitChars 10 (Nat.toDigits 10 m) 0 := Nat.ofDigitChars_ten_toDigits.symm
    _ = Nat.ofDigitChars 10 (Nat.toDigits 10 n) 0 := by rw [hdigits]
    _ = n := Nat.ofDigitChars_ten_toDigits

theorem numeral_before_dash_inj {a b : Int} {t u : List Char}
    (h : numeral a ++ '-' :: t = numeral b ++ '-' :: u) : a = b := by
  rw [numeral_eq, numeral_eq] at h
  split at h <;> split at h
  · have := digits_before_dash_inj h
    omega
  · exact absurd h Text.digits_ne_dash_cons
  · exact absurd h.symm Text.digits_ne_dash_cons
  · rw [List.cons_append, List.cons_append, List.cons.injEq] at h
    have := digits_before_dash_inj h.2
    omega

theorem exists_toList_of (generation : Int64) (revision : String) :
    ∃ rest, (of generation revision).toList =
      "flux-".toList ++ (numeral generation.toInt ++ '-' :: rest) ∧ ∀ c ∈ rest, Admitted c := by
  have hhead : (head generation).toList = "flux-".toList ++
      (numeral generation.toInt ++ ['-']) := by
    rw [head, String.toList_append, String.toList_append, List.append_assoc]
    rfl
  have hstart : ∀ rest : String, (head generation ++ rest).toList =
      "flux-".toList ++ (numeral generation.toInt ++ '-' :: rest.toList) := by
    intro rest
    rw [String.toList_append, hhead]
    simp only [List.append_assoc, List.singleton_append]
  have hmap : ∀ c ∈ revision.toList.map char, Admitted c := by
    intro c hc
    obtain ⟨x, -, rfl⟩ := List.mem_map.1 hc
    exact admitted_char x
  unfold of
  dsimp only
  split
  · refine ⟨"unknown".toList, hstart _, ?_⟩
    intro c hc
    have hall : "unknown".toList.all (·.isAlphanum) = true := rfl
    exact .inl (List.all_eq_true.1 hall c hc)
  · split
    · refine ⟨_, hstart _, ?_⟩
      rw [String.toList_ofList]
      exact hmap
    · refine ⟨_, hstart _, ?_⟩
      rw [String.toList_ofList]
      intro c hc
      rcases List.mem_append.1 hc with hc | hc
      · exact hmap c (List.mem_of_mem_take hc)
      · rcases List.mem_cons.1 hc with rfl | hc
        · exact .inr rfl
        · exact admitted_of_mem_digest hc

theorem admitted_of_mem_of {generation : Int64} {revision : String} {c : Char}
    (h : c ∈ (of generation revision).toList) : Admitted c := by
  obtain ⟨rest, hof, hrest⟩ := exists_toList_of generation revision
  rw [hof] at h
  rcases List.mem_append.1 h with h | h
  · have hall : "flux-".toList.all (fun c => c.isAlphanum || c == '-') = true := rfl
    exact admitted_iff.2 (List.all_eq_true.1 hall c h)
  · rcases List.mem_append.1 h with h | h
    · exact admitted_of_mem_numeral h
    · rcases List.mem_cons.1 h with rfl | h
      · exact .inr rfl
      · exact hrest c h

/-- Names of different generations differ. -/
theorem generation_eq_of_of_eq {g g' : Int64} {revision revision' : String}
    (h : of g revision = of g' revision') : g = g' := by
  obtain ⟨rest, hof, -⟩ := exists_toList_of g revision
  obtain ⟨rest', hof', -⟩ := exists_toList_of g' revision'
  rw [h, hof'] at hof
  exact Int64.toInt_inj.1 (numeral_before_dash_inj (List.append_cancel_left hof)).symm

/-! ## The length of a name -/

theorem length_numeral_le (generation : Int64) : (numeral generation.toInt).length ≤ 20 := by
  have hlower : -2 ^ 63 ≤ generation.toInt := generation.le_toInt
  have hupper : generation.toInt < 2 ^ 63 := generation.toInt_lt
  have hdigits : ∀ n : Nat, n < 10 ^ 19 → (Nat.toDigits 10 n).length ≤ 19 := fun n hn =>
    (Nat.length_toDigits_le_iff (by omega) (by omega)).2 hn
  rw [numeral_eq]
  split
  · have hlength := hdigits generation.toInt.toNat (by omega)
    omega
  · have hlength := hdigits (-generation.toInt).toNat (by omega)
    rw [List.length_cons]
    omega

theorem length_head_le (generation : Int64) : (head generation).length ≤ 26 := by
  have hstart : "flux-".length = 5 := rfl
  have hdash : "-".length = 1 := rfl
  have hnumeral : (toString generation.toInt).length ≤ 20 := by
    rw [← String.length_toList]
    exact length_numeral_le generation
  rw [head, String.length_append, String.length_append, hstart, hdash]
  omega

theorem length_digest (revision : String) : (digest revision).length = digestLength := by
  rw [digest, List.length_take, String.length_toList, Digest.Algorithm.length_hexDigest_sha256]
  rfl

/-- The revision stands in the name as a whole. -/
def Fits (generation : Int64) (revision : String) : Prop :=
  (head generation).length + (revision.toList.map char).length ≤ maxLength

theorem of_empty (generation : Int64) : of generation "" = head generation ++ "unknown" := rfl

theorem of_of_fits {generation : Int64} {revision : String} (hne : revision ≠ "")
    (h : Fits generation revision) :
    of generation revision = head generation ++ String.ofList (revision.toList.map char) := by
  have hfits : (head generation).length + (revision.toList.map char).length ≤ maxLength := h
  have hempty : revision.isEmpty = false := by simpa using hne
  simp only [of, hempty, Bool.false_eq_true, if_false, hfits, if_true]

theorem of_of_not_fits {generation : Int64} {revision : String} (h : ¬ Fits generation revision) :
    of generation revision = head generation ++ String.ofList
      ((revision.toList.map char).take
        (maxLength - ((head generation).length + 1 + digestLength)) ++ '-' :: digest revision) := by
  have hcut : ¬ (head generation).length + (revision.toList.map char).length ≤ maxLength := h
  have hne : revision ≠ "" := by
    intro hempty
    have hhead := length_head_le generation
    simp only [hempty, String.toList_empty, List.map_nil, List.length_nil, maxLength] at hcut
    omega
  have hempty : revision.isEmpty = false := by simpa using hne
  simp only [of, hempty, Bool.false_eq_true, if_false, hcut]

theorem length_of_of_not_fits {generation : Int64} {revision : String}
    (h : ¬ Fits generation revision) : (of generation revision).length = maxLength := by
  have hhead := length_head_le generation
  have hlong : maxLength < (head generation).length + (revision.toList.map char).length :=
    Nat.lt_of_not_le h
  rw [of_of_not_fits h, String.length_append, String.length_ofList, List.length_append,
    List.length_take, List.length_cons, length_digest]
  simp only [maxLength, digestLength] at hlong ⊢
  omega

theorem length_of_le (generation : Int64) (revision : String) :
    (of generation revision).length ≤ maxLength := by
  by_cases hfits : Fits generation revision
  · by_cases hne : revision = ""
    · have hhead := length_head_le generation
      have hunknown : "unknown".length = 7 := rfl
      rw [hne, of_empty, String.length_append, hunknown, maxLength]
      omega
    · rw [of_of_fits hne hfits, String.length_append, String.length_ofList]
      exact hfits
  · exact Nat.le_of_eq (length_of_of_not_fits hfits)

/-! ## The revision in a name -/

theorem fits_of_short {generation : Int64} {revision : String}
    (hshort : revision.toList.length ≤ 102) : Fits generation revision := by
  have hhead := length_head_le generation
  rw [Fits, List.length_map, maxLength]
  omega

theorem of_eq_of_iff {g g' : Int64} {revision revision' : String} (hne : revision ≠ "")
    (hne' : revision' ≠ "") (hfits : Fits g revision) (hfits' : Fits g' revision') :
    of g revision = of g' revision' ↔
      g = g' ∧ revision.toList.map char = revision'.toList.map char := by
  constructor
  · intro h
    obtain rfl := generation_eq_of_of_eq h
    rw [of_of_fits hne hfits, of_of_fits hne' hfits'] at h
    exact ⟨rfl, String.ofList_inj.1 (by simpa using h)⟩
  · rintro ⟨rfl, hmap⟩
    rw [of_of_fits hne hfits, of_of_fits hne' hfits', hmap]

/-- Short revisions that are admitted as they are have names of their own. -/
theorem revision_eq_of_of_eq {generation : Int64} {revision revision' : String}
    (hplain : ∀ r ∈ [revision, revision'], r.isEmpty = false ∧ r.toList.length ≤ 102 ∧
      r.toList.map char = r.toList)
    (h : of generation revision = of generation revision') : revision = revision' := by
  obtain ⟨hne, hshort, hchars⟩ := hplain revision List.mem_cons_self
  obtain ⟨hne', hshort', hchars'⟩ := hplain revision' (List.mem_cons_of_mem _ List.mem_cons_self)
  obtain ⟨-, hmap⟩ := (of_eq_of_iff (by simpa using hne) (by simpa using hne')
    (fits_of_short hshort) (fits_of_short hshort')).1 h
  rwa [hchars, hchars', String.toList_inj] at hmap

/-! ## Valid names -/

/-- What the service admits. -/
structure Valid (name : String) : Prop where
  short : name.length ≤ maxLength
  starts : ∃ c, name.toList.head? = some c ∧ c.isAlpha = true
  admitted : ∀ c ∈ name.toList, Admitted c

theorem valid_of (generation : Int64) (revision : String) : Valid (of generation revision) where
  short := length_of_le generation revision
  starts := by
    obtain ⟨rest, hof, -⟩ := exists_toList_of generation revision
    refine ⟨'f', ?_, rfl⟩
    rw [hof]
    rfl
  admitted _ h := admitted_of_mem_of h

/-- A name is valid; if the revision is cut, the name ends with the start of its digest. Names of
different generations differ, and so do those of revisions that fit and are written differently,
where a character is written as it is or, if it is not admitted, as a dash. -/
theorem of_valid_and_apart :
    (∀ c, (Admitted c → char c = c) ∧ (¬ Admitted c → char c = '-')) ∧
    (∀ g revision, Valid (of g revision)) ∧
    (∀ g revision, maxLength < (head g).length + (revision.toList.map char).length →
      (of g revision).length = maxLength ∧ ∃ start, (of g revision).toList = start ++ '-' ::
        (Digest.Algorithm.sha256.hexDigest revision.toUTF8).toList.take 16) ∧
    (∀ g g' revision revision', of g revision = of g' revision' → g = g') ∧
    ∀ g g' revision revision', revision ≠ "" → revision' ≠ "" → Fits g revision →
      Fits g' revision' → (of g revision = of g' revision' ↔
        g = g' ∧ revision.toList.map char = revision'.toList.map char) := by
  refine ⟨fun _ => ⟨char_of_admitted, char_of_not_admitted⟩, valid_of, fun g revision hlong => ?_,
    fun g g' revision revision' => generation_eq_of_of_eq,
    fun g g' revision revision' => of_eq_of_iff⟩
  have hcut : ¬ Fits g revision := Nat.not_le_of_lt hlong
  refine ⟨length_of_of_not_fits hcut, ?_⟩
  rw [of_of_not_fits hcut, String.toList_append, String.toList_ofList, ← List.append_assoc]
  exact ⟨_, rfl⟩

/-- Two revisions that differ in their separators only have one name in a generation, and two that
differ in their digests have two; a long one is cut. -/
theorem of_valid_and_apart_separators :
    of 4 "a@b:c" = of 4 "a/b:c" ∧ of 4 "main@sha1:aaa" ≠ of 4 "main@sha1:bbb" ∧
      (of 12 (String.ofList (List.replicate 200 'x'))).length = maxLength ∧
      Valid (of (-1) "") := by
  obtain ⟨hchar, hvalid, hcut, -, hiff⟩ := of_valid_and_apart
  refine ⟨?_, fun heq => ?_, ?_, hvalid _ _⟩
  · exact (hiff 4 4 "a@b:c" "a/b:c" (by simp) (by simp) (fits_of_short (by simp))
      (fits_of_short (by simp))).2 ⟨rfl, rfl⟩
  · obtain ⟨-, hwritten⟩ := (hiff 4 4 "main@sha1:aaa" "main@sha1:bbb" (by simp) (by simp)
      (fits_of_short (by simp)) (fits_of_short (by simp))).1 heq
    simp [(hchar 'a').1 (.inl rfl), (hchar 'b').1 (.inl rfl)] at hwritten
  · refine (hcut 12 _ ?_).1
    rw [List.length_map, String.toList_ofList, List.length_replicate, maxLength]
    omega

end ChangeSetName

end StackSync

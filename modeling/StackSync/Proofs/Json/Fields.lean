import StackSync.Json.Patch

/-!
# The fields of JSON objects

Fields are put at their places one after another, so they stand in the order of their keys, each key
once. Such lists are determined by what is found under the keys (`Sorted.ext`), and that is how
equalities between objects are proved here: key by key. What is found in a record that is written field
by field is the field's value (`get?_recordOf`), and what a merge patch of plain values leaves is the
patch before the target (`get?_mergeFields`).
-/

namespace StackSync

namespace Fields

/-- The keys stand in their order, each once. -/
def Sorted (fields : Fields) : Prop := fields.Pairwise (·.1 < ·.1)

variable {fields a b : Fields} {key : String} {value : Json} {e : String × Json}

theorem mem_insert (h : e ∈ insert key value fields) : e = (key, value) ∨ e ∈ fields := by
  induction fields with
  | nil => exact .inl (List.mem_singleton.1 h)
  | cons field rest ih =>
    simp only [insert] at h
    split at h
    · exact List.mem_cons.1 h
    · split at h
      · rcases List.mem_cons.1 h with h | h
        · exact .inl h
        · exact .inr (List.mem_cons_of_mem _ h)
      · rcases List.mem_cons.1 h with h | h
        · exact .inr (h ▸ List.mem_cons_self)
        · exact (ih h).imp_right (List.mem_cons_of_mem _)

theorem Sorted.insert (h : Sorted fields) (key : String) (value : Json) :
    Sorted (insert key value fields) := by
  induction fields with
  | nil => exact List.pairwise_singleton _ _
  | cons field rest ih =>
    obtain ⟨l, w⟩ := field
    obtain ⟨hfirst, hrest⟩ := List.pairwise_cons.1 h
    simp only [Fields.insert]
    split
    · next hbefore =>
      refine List.pairwise_cons.2 ⟨fun e he => ?_, h⟩
      rcases List.mem_cons.1 he with rfl | he
      · exact hbefore
      · exact String.lt_trans hbefore (hfirst e he)
    · next hbefore =>
      split
      · next hsame => exact List.pairwise_cons.2 ⟨fun e he => hsame ▸ hfirst e he, hrest⟩
      · next hother =>
        have hafter : l < key := by
          rcases String.le_total key l with hle | hle
          · exact absurd (String.le_antisymm hle (String.not_lt.1 hbefore)) hother
          · exact String.not_le.1 fun hback => hother (String.le_antisymm hback hle)
        refine List.pairwise_cons.2 ⟨fun e he => ?_, ih hrest⟩
        rcases mem_insert he with rfl | he
        · exact hafter
        · exact hfirst e he

/-- A key behind all others goes to the end. -/
theorem insert_of_after {acc : Fields} (h : ∀ e ∈ acc, e.1 < key)
    (item : Json) : insert key item acc = acc ++ [(key, item)] := by
  induction acc with
  | nil => rfl
  | cons field more ih =>
    have hfirst := h field List.mem_cons_self
    have hback : ¬key < field.1 := String.lt_asymm hfirst
    have hother : key ≠ field.1 := fun heq => String.lt_irrefl key (heq ▸ hfirst)
    rw [insert, if_neg hback, if_neg hother, ih fun e he => h e (List.mem_cons_of_mem _ he)]
    rfl

theorem Sorted.erase (h : Sorted fields) (key : String) : Sorted (erase key fields) :=
  List.Pairwise.filter _ h

theorem sorted_ofList (fields : List (String × Json)) : Sorted (ofList fields) := by
  have hfold : ∀ acc, Sorted acc →
      Sorted (fields.foldl (fun acc e => insert e.1 e.2 acc) acc) := by
    induction fields with
    | nil => exact fun _ h => h
    | cons field rest ih => exact fun acc h => ih _ (h.insert field.1 field.2)
  exact hfold [] List.Pairwise.nil

theorem mem_ofList (h : e ∈ ofList fields) : e ∈ fields := by
  have hfold : ∀ (l : List (String × Json)) acc,
      e ∈ l.foldl (fun acc e => insert e.1 e.2 acc) acc → e ∈ l ∨ e ∈ acc := by
    intro l
    induction l with
    | nil => exact fun _ h => .inr h
    | cons field rest ih =>
      intro acc h
      rcases ih _ h with h | h
      · exact .inl (List.mem_cons_of_mem _ h)
      · rcases mem_insert h with rfl | h
        · exact .inl List.mem_cons_self
        · exact .inr h
  rcases hfold fields [] h with h | h
  · exact h
  · cases h

theorem get?_erase (key k : String) (fields : Fields) :
    get? k (erase key fields) = if key = k then none else get? k fields := by
  induction fields with
  | nil => simp [erase, get?]
  | cons field rest ih =>
    obtain ⟨l, w⟩ := field
    by_cases hl : l = key
    · subst hl
      have hdrop : erase l ((l, w) :: rest) = erase l rest := List.filter_cons_of_neg (by simp)
      rw [hdrop, ih, get?]
      split <;> rfl
    · have hkeep : erase key ((l, w) :: rest) = (l, w) :: erase key rest :=
        List.filter_cons_of_pos (by simpa using hl)
      rw [hkeep, get?, get?, ih]
      by_cases hk : l = k
      · rw [if_pos hk, if_pos hk, if_neg fun h => hl (hk.trans h.symm)]
      · rw [if_neg hk, if_neg hk]

theorem mem_of_get? (h : get? key fields = some value) : (key, value) ∈ fields := by
  induction fields with
  | nil => cases h
  | cons field rest ih =>
    obtain ⟨l, w⟩ := field
    rw [get?] at h
    split at h
    · next hl =>
      cases h
      exact hl ▸ List.mem_cons_self
    · exact List.mem_cons_of_mem _ (ih h)

/-- Nothing is found in front of the first key. -/
theorem get?_eq_none_of_before (h : ∀ e ∈ fields, key < e.1) : get? key fields = none := by
  cases hget : get? key fields with
  | none => rfl
  | some value => exact absurd (h _ (mem_of_get? hget)) (String.lt_irrefl key)

theorem get?_cons_self (key : String) (value : Json) (rest : Fields) :
    get? key ((key, value) :: rest) = some value := by
  rw [get?, if_pos rfl]

/-- What is found in sorted fields is not in front of the first one. -/
theorem Sorted.first_le {first : String} {other : Json} {rest : Fields}
    (h : Sorted ((first, other) :: rest)) (hget : get? key ((first, other) :: rest) = some value) :
    first ≤ key := by
  rcases List.mem_cons.1 (mem_of_get? hget) with hsame | hmem
  · cases hsame
    exact String.le_refl _
  · exact String.not_lt.1 (String.lt_asymm ((List.pairwise_cons.1 h).1 _ hmem))

/-- Fields in their order are what is found in them. -/
theorem Sorted.ext (ha : Sorted a) (hb : Sorted b) (h : ∀ key, get? key a = get? key b) : a = b := by
  induction a generalizing b with
  | nil =>
    cases b with
    | nil => rfl
    | cons field rest => cases (h field.1).trans (get?_cons_self _ _ _)
  | cons field rest ih =>
    obtain ⟨k, v⟩ := field
    obtain ⟨hk, hrest⟩ := List.pairwise_cons.1 ha
    cases b with
    | nil => cases (h k).symm.trans (get?_cons_self _ _ _)
    | cons field' rest' =>
      obtain ⟨l, w⟩ := field'
      obtain ⟨hl, hrest'⟩ := List.pairwise_cons.1 hb
      have hkey : k = l :=
        String.le_antisymm (ha.first_le ((h l).trans (get?_cons_self _ _ _)))
          (hb.first_le ((h k).symm.trans (get?_cons_self _ _ _)))
      subst hkey
      have hvalue := h k
      rw [get?_cons_self, get?_cons_self, Option.some.injEq] at hvalue
      subst hvalue
      congr 1
      refine ih hrest hrest' fun key => ?_
      by_cases hkey : k = key
      · subst hkey
        rw [get?_eq_none_of_before hk, get?_eq_none_of_before hl]
      · have hother := h key
        rwa [get?, get?, if_neg hkey, if_neg hkey] at hother

end Fields

namespace Json

/-! ## Records -/

theorem lookup_eq_none_of_notMem {β : Type} {key : String} {l : List (String × β)}
    (h : key ∉ l.map (·.1)) : l.lookup key = none := by
  rw [List.lookup_eq_none_iff]
  intro e he
  exact bne_iff_ne.2 fun heq => h (List.mem_map.2 ⟨e, he, heq.symm⟩)

/-- What a record holds under a key is the value of the field, if that has one. -/
theorem get?_recordOf {fields : List (String × Option Json)} (h : (fields.map (·.1)).Nodup)
    (key : String) : (recordOf fields).field? key = (fields.lookup key).join := by
  have hfold : ∀ acc : Fields, Fields.get? key
      ((fields.filterMap fun e => e.2.map (e.1, ·)).foldl (fun acc e => Fields.insert e.1 e.2 acc) acc) =
        (fields.lookup key).join.or (Fields.get? key acc) := by
    induction fields with
    | nil => exact fun _ => rfl
    | cons field rest ih =>
      obtain ⟨k, v⟩ := field
      rw [List.map_cons, List.nodup_cons] at h
      obtain ⟨hfresh, hrest⟩ := h
      intro acc
      rw [List.lookup_cons]
      cases v with
      | none =>
        simp only [List.filterMap_cons, Option.map_none]
        rw [ih hrest]
        by_cases hk : key = k
        · subst hk
          rw [beq_self_eq_true, lookup_eq_none_of_notMem hfresh]
          rfl
        · rw [beq_false_of_ne hk]
      | some w =>
        simp only [List.filterMap_cons, Option.map_some, List.foldl_cons]
        rw [ih hrest, Fields.get?_insert]
        by_cases hk : key = k
        · subst hk
          rw [beq_self_eq_true, lookup_eq_none_of_notMem hfresh, if_pos rfl]
          rfl
        · rw [beq_false_of_ne hk, if_neg (Ne.symm hk)]
  exact (hfold []).trans (Option.or_none)

/-! ## Merge patches of plain values -/

/-- Neither `null`, which a merge patch takes for a removal, nor an object, which it merges. -/
def IsPlain : Json → Prop
  | .null | .object _ => False
  | _ => True

theorem mergePatch_of_isPlain {value : Json} (h : value.IsPlain) (target : Json) :
    target.mergePatch value = value := by
  cases value with
  | null | object fields => cases h
  | _ => rfl

/-- A patch of plain values comes before what it is merged onto. -/
theorem get?_mergeFields {patch : Fields} (hsorted : patch.Sorted)
    (hplain : ∀ key value, Fields.get? key patch = some value → value.IsPlain) (target : Fields)
    (key : String) :
    Fields.get? key (mergeFields target patch) =
      (Fields.get? key patch).or (Fields.get? key target) := by
  induction patch generalizing target with
  | nil => rfl
  | cons field rest ih =>
    obtain ⟨k, v⟩ := field
    obtain ⟨hfirst, hrest⟩ := List.pairwise_cons.1 hsorted
    have hnone : Fields.get? k rest = none := Fields.get?_eq_none_of_before hfirst
    have hv : v.IsPlain := hplain k v (by rw [Fields.get?, if_pos rfl])
    have hmore : ∀ key value, Fields.get? key rest = some value → value.IsPlain := by
      intro key value hvalue
      refine hplain key value ?_
      rw [Fields.get?, if_neg, hvalue]
      rintro rfl
      rw [hnone] at hvalue
      cases hvalue
    have hstep : mergeFields target ((k, v) :: rest) = mergeFields (Fields.insert k v target) rest := by
      have hmerged := mergePatch_of_isPlain hv ((Fields.get? k target).getD .null)
      cases v with
      | null => cases hv
      | _ => exact congrArg (fun value => mergeFields (Fields.insert k value target) rest) hmerged
    rw [hstep, ih hrest hmore, Fields.get?_insert, Fields.get?]
    by_cases hk : k = key
    · subst hk
      rw [hnone, if_pos rfl, if_pos rfl]
      rfl
    · rw [if_neg hk, if_neg hk]

end Json

end StackSync

import StackSync.Status.Transition

/-!
# Lists of conditions under upserts

Putting conditions into a list touches only the conditions of their types: the conditions a
type-respecting predicate selects are the ones put together from what it selects on both sides. The
other law looks at the list from its head: the first condition takes in, one after another, the
incoming ones of its type, and the rest of the list never sees them. Everything said about merged
statuses is read off these two.
-/

namespace StackSync

/-- A property of conditions that depends on their type alone. -/
def OfType (p : Condition → Bool) : Prop := ∀ a b : Condition, a.type = b.type → p a = p b

theorem ofType_isReady : OfType (·.isReady) := by
  intro a b h
  simp only [Condition.isReady, h]

theorem ofType_not {p : Condition → Bool} (h : OfType p) : OfType (!p ·) := by
  intro a b hab
  simp only [h a b hab]

namespace Condition

@[simp] theorem replacing_type (new old : Condition) : (new.replacing old).type = new.type := by
  unfold replacing
  split <;> rfl

@[simp] theorem replacing_status (new old : Condition) :
    (new.replacing old).status = new.status := by
  unfold replacing
  split <;> rfl

@[simp] theorem replacing_reason (new old : Condition) :
    (new.replacing old).reason = new.reason := by
  unfold replacing
  split <;> rfl

@[simp] theorem replacing_message (new old : Condition) :
    (new.replacing old).message = new.message := by
  unfold replacing
  split <;> rfl

@[simp] theorem replacing_observedGeneration (new old : Condition) :
    (new.replacing old).observedGeneration = new.observedGeneration := by
  unfold replacing
  split <;> rfl

/-- A condition that is upserted changes nothing if, and only if, it has the contents of the one it
meets; the transition times need not agree. -/
theorem replacing_eq_iff (new old : Condition) :
    new.replacing old = old ↔ { new with lastTransitionTime := old.lastTransitionTime } = old := by
  unfold replacing
  split
  · rfl
  · next hne =>
    have hstatus : ∀ t, { new with lastTransitionTime := t } ≠ old := by
      intro t h
      exact hne (by rw [← h])
    constructor
    · intro h
      exact absurd h (hstatus new.lastTransitionTime)
    · intro h
      exact absurd h (hstatus old.lastTransitionTime)

end Condition

/-! ## Selecting before and after -/

theorem filter_putCondition {p : Condition → Bool} (hp : OfType p) (new : Condition)
    (l : List Condition) :
    (putCondition new l).filter p = if p new then putCondition new
    (l.filter p) else l.filter p := by
  induction l with
  | nil =>
    cases h : p new <;> simp [putCondition, h]
  | cons old rest ih =>
    by_cases htype : old.type = new.type
    · have hold : p old = p new := hp _ _ htype
      have hnew : p (new.replacing old) = p new := hp _ _ (by simp)
      cases h : p new <;> simp [putCondition, htype, hold, hnew, h]
    · simp only [putCondition, htype, if_false, List.filter_cons]
      rw [ih]
      cases hold : p old <;> cases hnew : p new <;> simp [putCondition, htype]

theorem filter_foldl_putCondition {p : Condition → Bool} (hp : OfType p)
    (incoming l : List Condition) :
    (incoming.foldl (fun acc new => putCondition new acc) l).filter p =
      (incoming.filter p).foldl (fun acc new => putCondition new acc) (l.filter p) := by
  induction incoming generalizing l with
  | nil => rfl
  | cons new rest ih =>
    simp only [List.foldl_cons]
    rw [ih, filter_putCondition hp]
    cases h : p new <;> simp [h]

theorem filter_isReady_readyFirst (l : List Condition) :
    (readyFirst l).filter (·.isReady) = l.filter (·.isReady) := by
  simp [readyFirst, List.filter_filter]

theorem filter_not_isReady_readyFirst (l : List Condition) :
    (readyFirst l).filter (!·.isReady) = l.filter (!·.isReady) := by
  simp [readyFirst, List.filter_filter]

theorem filter_isReady_putConditions (existing incoming : List Condition) :
    (putConditions existing incoming).filter (·.isReady) =
      (incoming.filter (·.isReady)).foldl (fun acc new => putCondition new acc)
        (existing.filter (·.isReady)) := by
  rw [putConditions, filter_isReady_readyFirst, filter_foldl_putCondition ofType_isReady]

theorem filter_not_isReady_putConditions (existing incoming : List Condition) :
    (putConditions existing incoming).filter (!·.isReady) =
      (incoming.filter (!·.isReady)).foldl (fun acc new => putCondition new acc)
        (existing.filter (!·.isReady)) := by
  rw [putConditions, filter_not_isReady_readyFirst,
    filter_foldl_putCondition (ofType_not ofType_isReady)]

/-! ## The list seen from its head -/

/-- The conditions that meet `old` one after another. -/
def absorbed (incoming : List Condition) (old : Condition) : Condition :=
  incoming.foldl (fun acc new => new.replacing acc) old

theorem foldl_putCondition_cons (incoming : List Condition) (y : Condition) (ys : List Condition) :
    incoming.foldl (fun acc new => putCondition new acc) (y :: ys) =
      absorbed (incoming.filter (·.type = y.type)) y ::
        (incoming.filter (·.type ≠ y.type)).foldl (fun acc new => putCondition new acc) ys := by
  induction incoming generalizing y ys with
  | nil => rfl
  | cons new rest ih =>
    rw [List.foldl_cons]
    by_cases htype : y.type = new.type
    · have hput : putCondition new (y :: ys) = new.replacing y :: ys := by
        simp only [putCondition, htype, if_true]
      rw [hput, ih]
      simp [absorbed, htype]
    · have hput : putCondition new (y :: ys) = y :: putCondition new ys := by
        simp only [putCondition, htype, if_false]
      rw [hput, ih]
      simp [absorbed, Ne.symm htype]

theorem foldl_putCondition_nil (incoming : List Condition) :
    incoming.foldl (fun acc new => putCondition new acc) [] = [] ↔ incoming = [] := by
  cases incoming with
  | nil => simp
  | cons new rest =>
    have hput : putCondition new [] = [new] := rfl
    simp [hput, foldl_putCondition_cons]

theorem foldl_putCondition_singleton {incoming : List Condition} {old : Condition}
    (h : ∀ c ∈ incoming, c.type = old.type) :
    incoming.foldl (fun acc new => putCondition new acc) [old] = [absorbed incoming old] := by
  have hsame : incoming.filter (·.type = old.type) = incoming :=
    List.filter_eq_self.2 fun c hc => by simpa using h c hc
  have hother : incoming.filter (·.type ≠ old.type) = [] :=
    List.filter_eq_nil_iff.2 fun c hc => by simpa using h c hc
  rw [foldl_putCondition_cons, hsame, hother, List.foldl_nil]

theorem foldl_putCondition_fresh (new : Condition) (rest : List Condition) :
    (new :: rest).foldl (fun acc c => putCondition c acc) [] =
      absorbed (rest.filter (·.type = new.type)) new ::
        (rest.filter (·.type ≠ new.type)).foldl (fun acc c => putCondition c acc) [] :=
  foldl_putCondition_cons rest new []

/-- The last condition that comes in leaves its contents. Only the transition time depends on those
before it. -/
theorem absorbed_eq (incoming : List Condition) (old : Condition) :
    absorbed incoming old =
      { incoming.getLast?.getD old with
        lastTransitionTime := (absorbed incoming old).lastTransitionTime } := by
  rcases List.eq_nil_or_concat incoming with rfl | ⟨init, last, rfl⟩
  · rfl
  · simp only [absorbed, List.concat_eq_append, List.foldl_append, List.foldl_cons, List.foldl_nil,
      List.getLast?_append, List.getLast?_singleton, Option.some_or, Option.getD_some]
    unfold Condition.replacing
    split <;> rfl

theorem absorbed_type {incoming : List Condition} {old : Condition}
    (h : ∀ c ∈ incoming, c.type = old.type) : (absorbed incoming old).type = old.type := by
  rw [absorbed_eq]
  cases hlast : incoming.getLast? with
  | none => rfl
  | some last => exact h last (List.mem_of_getLast? hlast)

theorem absorbed_status (incoming : List Condition) (old : Condition) :
    (absorbed incoming old).status = (incoming.getLast?.getD old).status := by
  rw [absorbed_eq]

theorem absorbed_observedGeneration (incoming : List Condition) (old : Condition) :
    (absorbed incoming old).observedGeneration =
      (incoming.getLast?.getD old).observedGeneration := by
  rw [absorbed_eq]

/-! ## One condition a type -/

theorem filter_type_of_nodup {l : List Condition} (h : (l.map (·.type)).Nodup) {c : Condition}
    (hc : c ∈ l) : l.filter (·.type = c.type) = [c] := by
  induction l with
  | nil => cases hc
  | cons x xs ih =>
    rw [List.map_cons, List.nodup_cons] at h
    obtain ⟨hx, hxs⟩ := h
    rcases List.mem_cons.1 hc with rfl | hc
    · have hnone : xs.filter (·.type = c.type) = [] :=
        List.filter_eq_nil_iff.2 fun y hy heq => hx (List.mem_map.2 ⟨y, hy, by simpa using heq⟩)
      rw [List.filter_cons_of_pos (by simp), hnone]
    · have hne : x.type ≠ c.type := fun heq => hx (List.mem_map.2 ⟨c, hc, heq.symm⟩)
      rw [List.filter_cons_of_neg (by simpa using hne)]
      exact ih hxs hc

/-! ## The conditions of a status -/

def Status.foreign (s : Status) : List Condition := s.conditions.filter (!·.isReady)

/-- All conditions of type `Ready`: one, unless somebody has written several. -/
def Status.readies (s : Status) : List Condition := s.conditions.filter (·.isReady)

theorem Status.ready?_eq_head? (s : Status) : s.ready? = s.readies.head? := by
  simp [Status.ready?, Status.readies, List.head?_filter]

theorem Status.foreign_mergeOnto (l d : Status) :
    (d.mergeOnto (some l)).foreign =
      d.foreign.foldl (fun acc new => putCondition new acc) l.foreign :=
  filter_not_isReady_putConditions l.conditions d.conditions

theorem Status.readies_mergeOnto (l d : Status) :
    (d.mergeOnto (some l)).readies =
      d.readies.foldl (fun acc new => putCondition new acc) l.readies :=
  filter_isReady_putConditions l.conditions d.conditions

theorem type_of_mem_readies {s : Status} {c : Condition} (h : c ∈ s.readies) :
    c.type = readyType := by
  have hready : c.isReady = true := (List.mem_filter.1 h).2
  simpa [Condition.isReady] using hready

end StackSync

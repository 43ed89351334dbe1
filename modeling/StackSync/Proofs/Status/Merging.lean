import StackSync.Proofs.Status.Generations

/-!
# A move merged onto the status it came from

A round moves a status and writes the result onto the status it started from, so every condition is upserted
twice. With one `Ready` condition at most, both upserts meet it, and the second one gives it back the
transition time of the stored condition if the first has moved it only on the way. The other fields of the
merged status are those of the move, and what was applied last survives a move that is not to ready.
-/

namespace StackSync

/-! ## The one Ready condition -/

namespace Condition

/-- The new condition where there may have been one of its type. -/
def inPlaceOf (new : Condition) (old : Option Condition) : Condition := (old.map new.replacing).getD new

@[simp] theorem inPlaceOf_status (new : Condition) (old : Option Condition) :
    (new.inPlaceOf old).status = new.status := by
  cases old with
  | none => rfl
  | some old => exact replacing_status new old

@[simp] theorem inPlaceOf_observedGeneration (new : Condition) (old : Option Condition) :
    (new.inPlaceOf old).observedGeneration = new.observedGeneration := by
  cases old with
  | none => rfl
  | some old => exact replacing_observedGeneration new old

theorem lastTransitionTime_inPlaceOf {new old : Condition} (h : old.status = new.status) :
    (new.inPlaceOf (some old)).lastTransitionTime = old.lastTransitionTime := by
  show (new.replacing old).lastTransitionTime = _
  rw [replacing, if_pos h]

end Condition

theorem putCondition_of_single {new : Condition} {list : List Condition}
    (htype : ∀ old ∈ list, old.type = new.type) (hsingle : list.length ≤ 1) :
    putCondition new list = [new.inPlaceOf list.head?] := by
  cases list with
  | nil => rfl
  | cons old rest =>
    have hrest : rest = [] := by
      rw [List.length_cons] at hsingle
      exact List.eq_nil_of_length_eq_zero (by omega)
    rw [putCondition, if_pos (htype old List.mem_cons_self), hrest]
    rfl

namespace Status

variable {s d : Status} {a : Attempt} {st : ConditionStatus} {stored : Option Status}

theorem Moves.readies_of_single (h : s.Moves a st d) (hsingle : s.readies.length ≤ 1) :
    ∃ c, d.readies = [c] ∧ c.status = st ∧ c.observedGeneration = a.generation := by
  obtain ⟨reason, message, hreadies⟩ := h.readies
  rw [putCondition_of_single (fun old hold => type_of_mem_readies hold) hsingle] at hreadies
  refine ⟨_, hreadies, ?_, ?_⟩
  · rw [Condition.inPlaceOf_status, newReady]
  · rw [Condition.inPlaceOf_observedGeneration, newReady]

/-- A status with one `Ready` condition puts it over the stored one. -/
theorem readies_mergeOnto_of_single {c : Condition} (hd : d.readies = [c])
    (hsingle : (stored.getD .empty).readies.length ≤ 1) :
    (d.mergeOnto stored).readies = [c.inPlaceOf (stored.getD .empty).ready?] := by
  have hc : c.type = readyType := type_of_mem_readies (s := d) (by rw [hd]; exact List.mem_cons_self)
  cases stored with
  | none => exact hd
  | some l =>
    rw [Option.getD_some] at hsingle
    rw [readies_mergeOnto, hd, Option.getD_some, ready?_eq_head?]
    exact putCondition_of_single (fun old hold => (type_of_mem_readies hold).trans hc.symm) hsingle

theorem conditions_eq_of_putConditions {existing incoming : List Condition}
    (h : s.conditions = putConditions existing incoming) : s.conditions = s.readies ++ s.foreign := by
  rw [readies, foreign, h, putConditions, filter_isReady_readyFirst, filter_not_isReady_readyFirst]
  rfl

/-- `Ready` conditions come first in every status that is written. -/
theorem Moves.conditions_mergeOnto (h : s.Moves a st d) (stored : Option Status) :
    (d.mergeOnto stored).conditions = (d.mergeOnto stored).readies ++ (d.mergeOnto stored).foreign := by
  cases stored with
  | none => cases h <;> exact conditions_eq_of_putConditions rfl
  | some l => exact conditions_eq_of_putConditions rfl

/-! ## The other fields -/

theorem lastAttempted_mergeOnto (d : Status) (stored : Option Status) :
    (d.mergeOnto stored).lastAttemptedRevision = d.lastAttemptedRevision ∧
      (d.mergeOnto stored).lastAttemptedChangeSet = d.lastAttemptedChangeSet := by
  cases stored <;> exact ⟨rfl, rfl⟩

theorem lastApplied_mergeOnto_of_eq
    (hrevision : d.lastAppliedRevision = (stored.getD .empty).lastAppliedRevision)
    (hchangeSet : d.lastAppliedChangeSet = (stored.getD .empty).lastAppliedChangeSet) :
    (d.mergeOnto stored).lastAppliedRevision = (stored.getD .empty).lastAppliedRevision ∧
      (d.mergeOnto stored).lastAppliedChangeSet = (stored.getD .empty).lastAppliedChangeSet := by
  cases stored with
  | none => exact ⟨hrevision, hchangeSet⟩
  | some l =>
    rw [Option.getD_some] at hrevision hchangeSet
    constructor
    · show (d.lastAppliedRevision <|> l.lastAppliedRevision) = l.lastAppliedRevision
      rw [hrevision]
      cases l.lastAppliedRevision <;> rfl
    · show (d.lastAppliedChangeSet <|> l.lastAppliedChangeSet) = l.lastAppliedChangeSet
      rw [hchangeSet]
      cases l.lastAppliedChangeSet <;> rfl

theorem lastApplied_mergeOnto_of_some {revision changeSet : String}
    (hrevision : d.lastAppliedRevision = some revision)
    (hchangeSet : d.lastAppliedChangeSet = some changeSet) (stored : Option Status) :
    (d.mergeOnto stored).lastAppliedRevision = some revision ∧
      (d.mergeOnto stored).lastAppliedChangeSet = some changeSet := by
  cases stored with
  | none => exact ⟨hrevision, hchangeSet⟩
  | some l =>
    constructor
    · show (d.lastAppliedRevision <|> l.lastAppliedRevision) = some revision
      rw [hrevision]
      rfl
    · show (d.lastAppliedChangeSet <|> l.lastAppliedChangeSet) = some changeSet
      rw [hchangeSet]
      rfl

end Status

theorem generationBefore_of_le {generation : Int64} {seen : Option Int64}
    (h : ∀ g ∈ seen, g ≤ generation) : generationBefore (some generation) seen = false := by
  cases seen with
  | none => rfl
  | some g => exact decide_eq_false (Int64.not_lt.2 (h g rfl))

/-- A generation that is not behind what was seen before is the newest. -/
theorem newest_of_le {generation : Int64} {seen : Option Int64} (h : ∀ g ∈ seen, g ≤ generation) :
    newest seen (some generation) = some generation ∧
      newest (some generation) seen = some generation :=
  ⟨(newest_eq_right_iff _ _).2 (generationBefore_of_le h),
    (newest_eq_left_iff _ _).2 (generationBefore_of_le h)⟩

theorem Status.observedGeneration_mergeOnto_of_le {d : Status} {stored : Option Status}
    {generation : Int64} (hd : d.observedGeneration = some generation)
    (hseen : ∀ g ∈ (stored.getD .empty).observedGeneration, g ≤ generation) :
    (d.mergeOnto stored).observedGeneration = some generation := by
  cases stored with
  | none => exact hd
  | some l =>
    rw [observedGeneration_mergeOnto, hd]
    exact (newest_of_le hseen).2

end StackSync

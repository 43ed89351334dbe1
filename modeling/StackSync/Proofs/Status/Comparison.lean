import Mathlib.Data.List.Forall2
import StackSync.Proofs.Resource.Encoding

/-!
# What two statuses are compared by

Statuses are compared as they are written, less the transition times, and a key that is left out
stands for a field that is absent. Nothing gets lost on the way there: without its times a status is
still written so that it can be read back, so two of them compare as equal only if they are the same
status but for the times (`needsWrite_only_ignores_times`). That makes the comparison an
equivalence: a write that is spared over the stored status is spared over any other one that compares
as equal to it.
-/

namespace StackSync

/-- The same condition, whenever the two came about. -/
structure Condition.SameButTime (a b : Condition) : Prop where
  type : a.type = b.type
  status : a.status = b.status
  reason : a.reason = b.reason
  message : a.message = b.message
  observedGeneration : a.observedGeneration = b.observedGeneration

theorem Condition.sameButTime_iff {a b : Condition} :
    SameButTime a b ↔ a.timeless = b.timeless := by
  cases a
  cases b
  constructor
  · rintro ⟨rfl, rfl, rfl, rfl, rfl⟩
    rfl
  · intro h
    injection h with htype hstatus hreason hmessage hgeneration
    exact ⟨htype, hstatus, hreason, hmessage, hgeneration⟩

namespace Status

variable {a b : Status}

/-- The same status, field by field, with the same conditions in the same order, whenever they came
about. -/
structure SameButTimes (a b : Status) : Prop where
  observedGeneration : a.observedGeneration = b.observedGeneration
  conditions : List.Forall₂ Condition.SameButTime a.conditions b.conditions
  lastAttemptedRevision : a.lastAttemptedRevision = b.lastAttemptedRevision
  lastAppliedRevision : a.lastAppliedRevision = b.lastAppliedRevision
  lastAttemptedChangeSet : a.lastAttemptedChangeSet = b.lastAttemptedChangeSet
  lastAppliedChangeSet : a.lastAppliedChangeSet = b.lastAppliedChangeSet
  stackName : a.stackName = b.stackName

theorem forall₂_sameButTime_iff {conditions conditions' : List Condition} :
    List.Forall₂ Condition.SameButTime conditions conditions' ↔
      conditions.map (·.timeless) = conditions'.map (·.timeless) := by
  have hsame : Condition.SameButTime = fun a b => a.timeless = b.timeless := by
    funext a b
    exact propext Condition.sameButTime_iff
  rw [hsame, ← List.forall₂_eq_eq_eq, List.forall₂_map_left_iff, List.forall₂_map_right_iff]

theorem sameButTimes_iff : SameButTimes a b ↔ a.timeless = b.timeless := by
  constructor
  · intro h
    simp only [timeless, h.observedGeneration, forall₂_sameButTime_iff.1 h.conditions,
      h.lastAttemptedRevision, h.lastAppliedRevision, h.lastAttemptedChangeSet,
      h.lastAppliedChangeSet, h.stackName]
  · intro h
    injection h with hgeneration hconditions hattempted happlied hattempt hchange hname
    exact ⟨hgeneration, forall₂_sameButTime_iff.2 hconditions, hattempted, happlied, hattempt,
      hchange, hname⟩

theorem needsWrite_eq_false_iff : needsWrite (some a) b = false ↔ SameButTimes a b := by
  rw [sameButTimes_iff, ← Bool.not_eq_true, needsWrite_some_iff, not_not]

theorem sameButTimes_equivalence : Equivalence fun a b => SameButTimes a b := by
  simp only [sameButTimes_iff]
  exact ⟨fun _ => rfl, Eq.symm, Eq.trans⟩

/-- A write is spared exactly over a status that is the same but for its times; sparing is an
equivalence, and where there is no status nothing is spared. -/
theorem needsWrite_only_ignores_times :
    (∀ current desired, (needsWrite (some current) desired = false ↔ SameButTimes current desired) ∧
      (SameButTimes current desired ↔ current.timeless = desired.timeless)) ∧
    Equivalence (fun current desired => needsWrite (some current) desired = false) ∧
    ∀ desired, needsWrite none desired = true := by
  refine ⟨fun _ _ => ⟨needsWrite_eq_false_iff, sameButTimes_iff⟩, ?_, fun _ => rfl⟩
  simp only [needsWrite_eq_false_iff]
  exact sameButTimes_equivalence

end Status

end StackSync

import StackSync.Proofs.Status.Conditions

/-!
# What one move does to a status

Whatever a round came to, its status is one of three moves from an earlier one. All three record the
attempt and upsert one `Ready` condition, so what later proofs need of a status is said here once
for all of them: the other writers' conditions are those of the earlier status, the first `Ready`
condition is the new one, and generation and change set are those of the attempt unless the earlier
status knows better.
-/

namespace StackSync

def newest (a b : Option Int64) : Option Int64 := if generationBefore a b then b else a

namespace Status

/-- The statuses one move leads to, by the status of the `Ready` condition it writes. -/
inductive Moves (s : Status) (a : Attempt) : ConditionStatus → Status → Prop where
  | progressing (message : String) : Moves s a .unknown (s.progressing a message)
  | notReady (reason message : String) : Moves s a .false (s.notReady a reason message)
  | ready (message : String) : Moves s a .true (s.ready a message)

theorem foreign_apply (s : Status) (a : Attempt) (st : ConditionStatus) (reason message : String) :
    (s.apply a st reason message).foreign = s.foreign := by
  have hnew : (newReady a st reason message).isReady = true := by simp [Condition.isReady, newReady]
  show (putConditions s.conditions [newReady a st reason message]).filter (!·.isReady) = s.foreign
  rw [filter_not_isReady_putConditions]
  simp [hnew, Status.foreign]

theorem readies_apply (s : Status) (a : Attempt) (st : ConditionStatus) (reason message : String) :
    (s.apply a st reason message).readies = putCondition
    (newReady a st reason message) s.readies := by
  have hnew : (newReady a st reason message).isReady = true := by simp [Condition.isReady, newReady]
  show (putConditions s.conditions [newReady a st reason message]).filter (·.isReady) = _
  rw [filter_isReady_putConditions]
  simp [hnew, Status.readies]

/-- The new `Ready` condition stands first, even among several. -/
theorem ready?_apply (s : Status) (a : Attempt) (st : ConditionStatus) (reason message : String) :
    ∃ c, (s.apply a st reason message).ready? = some c ∧ c.status = st ∧ c.reason = some reason ∧
      c.message = some message ∧ c.observedGeneration = a.generation := by
  rw [ready?_eq_head?, readies_apply]
  cases hs : s.readies with
  | nil => exact ⟨newReady a st reason message, rfl, rfl, rfl, rfl, rfl⟩
  | cons y ys =>
    have htype : y.type = readyType :=
      type_of_mem_readies (s := s) (by rw [hs]; exact List.mem_cons_self)
    refine ⟨(newReady a st reason message).replacing y, ?_, by simp [newReady], by simp [newReady],
      by simp [newReady], by simp [newReady]⟩
    simp [putCondition, newReady, htype]

variable {s d : Status} {a : Attempt} {st : ConditionStatus}

theorem Moves.foreign (h : s.Moves a st d) : d.foreign = s.foreign := by
  cases h with
  | progressing message => exact foreign_apply s a _ _ _
  | notReady reason message => exact foreign_apply s a _ _ _
  | ready message => exact foreign_apply s a _ _ _

theorem Moves.readies (h : s.Moves a st d) :
    ∃ reason message, d.readies = putCondition (newReady a st reason message) s.readies := by
  cases h with
  | progressing message => exact ⟨_, message, readies_apply s a _ _ _⟩
  | notReady reason message => exact ⟨reason, message, readies_apply s a _ _ _⟩
  | ready message => exact ⟨_, message, readies_apply s a _ _ _⟩

theorem Moves.observedGeneration (h : s.Moves a st d) :
    d.observedGeneration = newest s.observedGeneration a.generation := by
  cases h <;> rfl

theorem Moves.lastAttemptedChangeSet (h : s.Moves a st d) :
    d.lastAttemptedChangeSet = (a.changeSet <|> s.lastAttemptedChangeSet) := by
  cases h <;> rfl

theorem Moves.lastAttemptedRevision (h : s.Moves a st d) :
    d.lastAttemptedRevision = (a.revision <|> s.lastAttemptedRevision) := by
  cases h <;> rfl

/-- Only a move to ready touches what was applied last. -/
theorem Moves.lastApplied_of_unready (h : s.Moves a st d) (hst : st ≠ .true) :
    d.lastAppliedRevision = s.lastAppliedRevision ∧
      d.lastAppliedChangeSet = s.lastAppliedChangeSet := by
  cases h with
  | progressing message => exact ⟨rfl, rfl⟩
  | notReady reason message => exact ⟨rfl, rfl⟩
  | ready message => exact absurd rfl hst

theorem Moves.lastApplied_of_ready (h : s.Moves a .true d) :
    d.lastAppliedRevision = d.lastAttemptedRevision ∧
      d.lastAppliedChangeSet = d.lastAttemptedChangeSet := by
  cases h with
  | ready message => exact ⟨rfl, rfl⟩

theorem Moves.ready? (h : s.Moves a st d) :
    ∃ c, d.ready? = some c ∧ c.status = st ∧ c.observedGeneration = a.generation := by
  have happly : ∀ st reason message, ∃ c, (s.apply a st reason message).ready? = some c ∧
      c.status = st ∧ c.observedGeneration = a.generation := by
    intro st reason message
    obtain ⟨c, hready, hstatus, -, -, hgeneration⟩ := ready?_apply s a st reason message
    exact ⟨c, hready, hstatus, hgeneration⟩
  cases h with
  | progressing message => exact happly _ _ message
  | notReady reason message => exact happly _ reason message
  | ready message => exact happly _ _ message

theorem observedGeneration_mergeOnto (l d : Status) :
    (d.mergeOnto (some l)).observedGeneration = newest d.observedGeneration l.observedGeneration :=
    rfl

end Status

end StackSync

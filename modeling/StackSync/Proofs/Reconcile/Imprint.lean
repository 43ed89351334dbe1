import StackSync.Proofs.Reconcile.Ledger
import StackSync.Proofs.Reconcile.Writers
import StackSync.Proofs.Resource.Encoding

/-!
# What a judgement leaves on a stored status

A round moves the status by one judgement and has it merged onto the status it started from. Times
aside, what is stored then depends on the judgement, the attempt and the status before, and on nothing
that has happened in between: `imprint` is that status. A judgement that is passed again on its own
imprint changes nothing about it (`imprint_imprint`). So whether the next round writes is a matter of
its passing the same judgement.
-/

namespace StackSync

/-! ## Conditions of distinct types -/

section

variable {l : List Condition} {c : Condition}

theorem find?_type_of_nodup (h : (l.map (·.type)).Nodup) (hc : c ∈ l) :
    l.find? (·.type = c.type) = some c := by
  rw [← List.head?_filter, filter_type_of_nodup h hc]
  rfl

/-- A list of distinct types takes its own conditions without a change. -/
theorem foldl_putCondition_self (h : (l.map (·.type)).Nodup) :
    l.foldl (fun acc new => putCondition new acc) l = l :=
  (foldl_putCondition_eq_self_iff l l).2 <| (settled_iff_of_nodup h l).2 fun c hc =>
    ⟨c, find?_type_of_nodup h hc, rfl⟩

end

namespace Status

variable {s : Status}

theorem length_readies_le (h : (s.conditions.map (·.type)).Nodup) : s.readies.length ≤ 1 := by
  cases hlist : s.readies with
  | nil => exact Nat.zero_le 1
  | cons c rest =>
    have hmem : c ∈ s.readies := hlist ▸ List.mem_cons_self
    have hsame : s.readies = s.conditions.filter (·.type = c.type) := by
      refine List.filter_congr fun x _ => ?_
      rw [type_of_mem_readies hmem]
      rfl
    rw [← hlist, hsame, filter_type_of_nodup h (List.mem_filter.1 hmem).1]
    exact Nat.le_refl 1

theorem nodup_foreign (h : (s.conditions.map (·.type)).Nodup) : (s.foreign.map (·.type)).Nodup :=
  h.sublist (List.filter_sublist.map _)

theorem foreign_timeless (s : Status) : s.timeless.foreign = s.foreign.map (·.timeless) :=
  List.filter_map ..

theorem types_timeless (s : Status) :
    s.timeless.conditions.map (·.type) = s.conditions.map (·.type) := by
  rw [timeless, List.map_map]
  rfl

end Status

/-! ## Judgements -/

/-- What a round has to say of the stack. -/
inductive Judgement where
  | progressing (message : String)
  | notReady (reason message : String)
  | ready (message : String)
  deriving DecidableEq, Repr

namespace Judgement

def status : Judgement → ConditionStatus
  | progressing _ => .unknown
  | notReady .. => .false
  | ready _ => .true

def reason : Judgement → String
  | progressing _ => Reason.progressing
  | notReady reason _ => reason
  | ready _ => Reason.succeeded

def message : Judgement → String
  | progressing message | notReady _ message | ready message => message

/-- The status it moves one to. -/
def move (j : Judgement) (s : Status) (a : Attempt) : Status :=
  match j with
  | progressing message => s.progressing a message
  | notReady reason message => s.notReady a reason message
  | ready message => s.ready a message

/-- The `Ready` condition it passes. -/
def condition (j : Judgement) (a : Attempt) : Condition := Status.newReady a j.status j.reason j.message

variable {j : Judgement} {s l base : Status} {a a' : Attempt}

theorem moves (j : Judgement) (s : Status) (a : Attempt) : s.Moves a j.status (j.move s a) := by
  cases j with
  | progressing message => exact .progressing message
  | notReady reason message => exact .notReady reason message
  | ready message => exact .ready message

theorem stackName_move (j : Judgement) (s : Status) (a : Attempt) :
    (j.move s a).stackName = (a.stackName <|> s.stackName) := by
  cases j <;> rfl

theorem readies_move (j : Judgement) (s : Status) (a : Attempt) :
    (j.move s a).readies = putCondition (j.condition a) s.readies := by
  cases j <;> exact Status.readies_apply s a _ _ _

theorem lastApplied_move (j : Judgement) (s : Status) (a : Attempt) :
    (j.move s a).lastAppliedRevision =
        (if j.status = .true then a.revision <|> s.lastAttemptedRevision else s.lastAppliedRevision) ∧
      (j.move s a).lastAppliedChangeSet =
        (if j.status = .true then a.changeSet <|> s.lastAttemptedChangeSet
          else s.lastAppliedChangeSet) := by
  cases j <;> exact ⟨rfl, rfl⟩

/-- The status that is left, times aside. -/
def imprint (j : Judgement) (base : Status) (a : Attempt) : Status where
  observedGeneration := newest base.observedGeneration a.generation
  conditions := (j.condition a).timeless :: base.foreign.map (·.timeless)
  lastAttemptedRevision := a.revision <|> base.lastAttemptedRevision
  lastAppliedRevision :=
    (if j.status = .true then a.revision <|> base.lastAttemptedRevision else none) <|>
      base.lastAppliedRevision
  lastAttemptedChangeSet := a.changeSet <|> base.lastAttemptedChangeSet
  lastAppliedChangeSet :=
    (if j.status = .true then a.changeSet <|> base.lastAttemptedChangeSet else none) <|>
      base.lastAppliedChangeSet
  stackName := a.stackName

/-! ### It covers the status before -/

theorem covers_imprint (j : Judgement) (base : Status) (hname : a.stackName ≠ none) :
    (j.imprint base a).Covers base := by
  have hrest : ∀ {first last : Option String}, (first <|> last) = none → last = none := by
    intro first last h
    cases first with
    | none => exact h
    | some value => cases h
  refine ⟨nofun, hrest, hrest, hrest, hrest, fun h => ?_, fun h => absurd h hname⟩
  have hnewest := not_generationBefore_newest_left base.observedGeneration a.generation
  rw [show newest base.observedGeneration a.generation = none from h] at hnewest
  cases hbase : base.observedGeneration with
  | none => rfl
  | some g =>
    rw [hbase] at hnewest
    cases hnewest

end Judgement

theorem Status.Covers.of_timeless {d s : Status} (h : d.timeless.Covers s) : d.Covers s :=
  { h with conditions := fun hnil => h.conditions (by rw [Status.timeless, hnil, List.map_nil]) }

/-! ### It is what is stored -/

theorem newest_newest_left (a b : Option Int64) : newest (newest a b) a = newest a b :=
  (newest_eq_left_iff _ _).2 (not_generationBefore_newest_left a b)

theorem newest_newest_right (a b : Option Int64) : newest (newest a b) b = newest a b := by
  refine (newest_eq_left_iff _ _).2 ?_
  unfold newest
  split
  · exact not_generationBefore_self b
  · next h => simpa using h

namespace Manifest

variable {m : Manifest} {s : Status}

theorem base_of_some {l : Status} (h : m.status = some l) : m.base = l := by
  rw [base, h, Option.getD_some]

theorem base_of_none (h : m.status = none) : m.base = .empty := by
  rw [base, h, Option.getD_none]

theorem Observed.lastAttemptedRevision (h : m.Observed s) :
    s.lastAttemptedRevision = m.base.lastAttemptedRevision := by
  rcases h with rfl | ⟨a, hattempts, hmoves⟩
  · rfl
  · rw [hmoves.lastAttemptedRevision, hattempts.revision]
    rfl

theorem Observed.newest_observedGeneration (h : m.Observed s) :
    newest s.observedGeneration m.metadata.generation =
      newest m.base.observedGeneration m.metadata.generation := by
  rcases h with rfl | ⟨a, hattempts, hmoves⟩
  · rfl
  · rw [hmoves.observedGeneration, hattempts.generation, newest_newest_right]

end Manifest

theorem Condition.timeless_inPlaceOf (new : Condition) (old : Option Condition) :
    (new.inPlaceOf old).timeless = new.timeless := by
  cases old with
  | none => rfl
  | some old =>
    show (new.replacing old).timeless = _
    unfold replacing
    split <;> rfl

namespace Judgement

variable {j : Judgement} {m : Manifest} {s : Status} {a : Attempt}

theorem conditions_mergeOnto (observed : m.Observed s)
    (distinct : (m.base.conditions.map (·.type)).Nodup) :
    ((j.move s a).mergeOnto m.status).conditions.map (·.timeless) =
      (j.condition a).timeless :: m.base.foreign.map (·.timeless) := by
  have hsingle := Status.length_readies_le distinct
  have hreadies : (j.move s a).readies = [(j.condition a).inPlaceOf s.readies.head?] := by
    rw [readies_move]
    exact putCondition_of_single (fun old hold => type_of_mem_readies hold) (observed.readies hsingle)
  have hforeign : ((j.move s a).mergeOnto m.status).foreign = m.base.foreign := by
    have hmoved : (j.move s a).foreign = m.base.foreign := (j.moves s a).foreign.trans observed.foreign
    cases hstatus : m.status with
    | none => exact hmoved
    | some l =>
      have hbase : m.base = l := Manifest.base_of_some hstatus
      rw [Status.foreign_mergeOnto, hmoved, hbase]
      exact foldl_putCondition_self (Status.nodup_foreign (hbase ▸ distinct))
  rw [(j.moves s a).conditions_mergeOnto, hforeign,
    Status.readies_mergeOnto_of_single hreadies hsingle, List.map_append, List.map_singleton,
    Condition.timeless_inPlaceOf, Condition.timeless_inPlaceOf, List.singleton_append]

theorem observedGeneration_mergeOnto (observed : m.Observed s)
    (hgeneration : a.generation = m.metadata.generation) :
    ((j.move s a).mergeOnto m.status).observedGeneration =
      newest m.base.observedGeneration a.generation := by
  have hmoved : (j.move s a).observedGeneration = newest m.base.observedGeneration a.generation := by
    rw [(j.moves s a).observedGeneration, hgeneration, observed.newest_observedGeneration]
  cases hstatus : m.status with
  | none => exact hmoved
  | some l =>
    rw [Status.observedGeneration_mergeOnto, hmoved, Manifest.base_of_some hstatus, newest_newest_left]

theorem lastAttempted_mergeOnto (observed : m.Observed s) :
    ((j.move s a).mergeOnto m.status).lastAttemptedRevision =
        (a.revision <|> m.base.lastAttemptedRevision) ∧
      ((j.move s a).mergeOnto m.status).lastAttemptedChangeSet =
        (a.changeSet <|> m.base.lastAttemptedChangeSet) := by
  have hmerged := Status.lastAttempted_mergeOnto (j.move s a) m.status
  rw [(j.moves s a).lastAttemptedRevision, (j.moves s a).lastAttemptedChangeSet,
    observed.lastAttemptedRevision, observed.lastAttemptedChangeSet] at hmerged
  exact hmerged

/-- What has been applied is what the judgement adds, and else what had been applied before: merging
adds nothing to that. -/
theorem lastApplied_mergeOnto (observed : m.Observed s) :
    ((j.move s a).mergeOnto m.status).lastAppliedRevision =
        (j.imprint m.base a).lastAppliedRevision ∧
      ((j.move s a).mergeOnto m.status).lastAppliedChangeSet =
        (j.imprint m.base a).lastAppliedChangeSet := by
  have hmoved := lastApplied_move j s a
  rw [observed.lastAttemptedRevision, observed.lastAttemptedChangeSet, observed.lastApplied.1,
    observed.lastApplied.2] at hmoved
  cases hstatus : m.status with
  | none =>
    have hmerged : ∀ x : Option String, (x <|> none) = x := fun x => by cases x <;> rfl
    rw [Manifest.base_of_none hstatus] at hmoved ⊢
    exact ⟨hmoved.1.trans (hmerged _).symm, hmoved.2.trans (hmerged _).symm⟩
  | some l =>
    have hadded : ∀ x y : Option String, ((if j.status = .true then x else y) <|> y) =
        ((if j.status = .true then x else none) <|> y) := by
      intro x y
      split
      · rfl
      · cases y <;> rfl
    rw [Manifest.base_of_some hstatus] at hmoved ⊢
    constructor
    · show ((j.move s a).lastAppliedRevision <|> l.lastAppliedRevision) = _
      rw [hmoved.1]
      exact hadded _ _
    · show ((j.move s a).lastAppliedChangeSet <|> l.lastAppliedChangeSet) = _
      rw [hmoved.2]
      exact hadded _ _

theorem stackName_mergeOnto (hname : a.stackName ≠ none) (latest : Option Status) :
    ((j.move s a).mergeOnto latest).stackName = a.stackName := by
  have hmoved : (j.move s a).stackName = a.stackName := by
    rw [stackName_move]
    cases hsome : a.stackName with
    | none => exact absurd hsome hname
    | some name => rfl
  cases latest <;> exact hmoved

/-- Whatever has been written on the way, times aside the merged status is the imprint. -/
theorem timeless_mergeOnto (observed : m.Observed s)
    (distinct : (m.base.conditions.map (·.type)).Nodup)
    (hgeneration : a.generation = m.metadata.generation) (hname : a.stackName ≠ none) :
    ((j.move s a).mergeOnto m.status).timeless = j.imprint m.base a := by
  have hconditions := conditions_mergeOnto (j := j) (a := a) observed distinct
  have hobserved := observedGeneration_mergeOnto (j := j) observed hgeneration
  have hattempted := lastAttempted_mergeOnto (j := j) (a := a) observed
  have happlied := lastApplied_mergeOnto (j := j) (a := a) observed
  have hstackName := stackName_mergeOnto (j := j) (s := s) hname m.status
  generalize (j.move s a).mergeOnto m.status = merged at *
  obtain ⟨generation, conditions, attempted, applied, attemptedChangeSet, appliedChangeSet, stackName⟩ :=
    merged
  simp only [Status.timeless, imprint, Status.mk.injEq]
  exact ⟨hobserved, hconditions, hattempted.1, happlied.1, hattempted.2, happlied.2, hstackName⟩

/-! ### It stays -/

theorem foreign_imprint (j : Judgement) (base : Status) (a : Attempt) :
    (j.imprint base a).foreign = base.foreign.map (·.timeless) := by
  have hfirst : (!(j.condition a).timeless.isReady) = false := rfl
  have hrest : ∀ c ∈ base.foreign.map (·.timeless), (!c.isReady) = true := by
    intro c hc
    obtain ⟨c', hc', rfl⟩ := List.mem_map.1 hc
    exact (List.mem_filter.1 hc').2
  rw [Status.foreign, imprint, List.filter_cons_of_neg (by simp [hfirst]),
    List.filter_eq_self.2 hrest]

/-- Passed again on what it has left, at another time, a judgement leaves the same. -/
theorem imprint_imprint {l base : Status} (h : l.timeless = j.imprint base a) (time : String) :
    j.imprint l { a with time } = l.timeless := by
  have hforeign : l.foreign.map (·.timeless) = base.foreign.map (·.timeless) := by
    rw [← Status.foreign_timeless, h, foreign_imprint]
  have hobserved : l.observedGeneration = newest base.observedGeneration a.generation :=
    congrArg Status.observedGeneration h
  have hrevision : l.lastAttemptedRevision = (a.revision <|> base.lastAttemptedRevision) :=
    congrArg Status.lastAttemptedRevision h
  have hchangeSet : l.lastAttemptedChangeSet = (a.changeSet <|> base.lastAttemptedChangeSet) :=
    congrArg Status.lastAttemptedChangeSet h
  have happlied : l.lastAppliedRevision = (j.imprint base a).lastAppliedRevision := by
    rw [← h]
    rfl
  have hdeployed : l.lastAppliedChangeSet = (j.imprint base a).lastAppliedChangeSet := by
    rw [← h]
    rfl
  have hagain : ∀ x y : Option String, (x <|> (x <|> y)) = (x <|> y) := fun x y => by cases x <;> rfl
  rw [h]
  simp only [imprint, hforeign, hobserved, hrevision, hchangeSet, happlied, hdeployed, hagain,
    newest_newest_right]
  rfl

theorem distinct_of_imprint {l base : Status} (h : l.timeless = j.imprint base a)
    (distinct : (base.conditions.map (·.type)).Nodup) : (l.conditions.map (·.type)).Nodup := by
  have htypes : l.conditions.map (·.type) = readyType :: base.foreign.map (·.type) := by
    rw [← Status.types_timeless, h, imprint, List.map_cons, List.map_map]
    rfl
  rw [htypes, List.nodup_cons]
  refine ⟨fun hmem => ?_, Status.nodup_foreign distinct⟩
  obtain ⟨c, hc, htype⟩ := List.mem_map.1 hmem
  have hforeign : (!c.isReady) = true := (List.mem_filter.1 hc).2
  rw [Condition.isReady, htype] at hforeign
  cases hforeign

end Judgement

end StackSync

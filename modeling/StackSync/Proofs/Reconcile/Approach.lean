import StackSync.Proofs.Reconcile.Stability

/-!
# The way to a deployed template

A working cloud on which no change set is in the way comes to hold the template of a target in a few
turns: a stack that is in trouble is repaired or deleted, a change set is made and executed, and
found again. `Ahead` says how many turns there are at most before the one that says ready. Every
turn before that one shortens the way for the target of the next round (`Ahead.turn`), which is the
same but for the reference that was recorded.
-/

namespace StackSync

open Program MemoryCloud

namespace MemoryCloud

variable {c : MemoryCloud} {key : StackKey} {h : ChangeSetHandle} {id : String}
  {s : ChangeSetRecord}

/-! ## Finding what has been made and executed -/

theorem changeSet?_updateChangeSet (c : MemoryCloud) (id : String)
    (f : ChangeSetRecord → ChangeSetRecord) (i : String) :
    (c.updateChangeSet id f).changeSet? i =
      (c.changeSet? i).map fun s => if i = id then f s else s := by
  unfold changeSet? updateChangeSet
  induction c.changeSets with
  | nil => rfl
  | cons e rest ih =>
    obtain ⟨j, s⟩ := e
    rw [List.map_cons, List.lookup_cons, List.lookup_cons]
    by_cases hi : i = j
    · subst hi
      by_cases hid : i = id <;> simp [hid]
    · have hfst : (if j = id then (j, f s) else (j, s)).1 = j := by split <;> rfl
      rw [hfst, beq_false_of_ne hi]
      exact ih

theorem idOf?_updateChangeSet {f : ChangeSetRecord → ChangeSetRecord}
    (hkey : ∀ s, (f s).belongsTo key = s.belongsTo key) (hname : ∀ s, (f s).name = s.name) :
    (c.updateChangeSet id f).idOf? key h = c.idOf? key h := by
  unfold idOf?
  cases h.id with
  | some i =>
    dsimp only
    rw [changeSet?_updateChangeSet, Option.isSome_map]
  | none =>
    dsimp only
    rw [updateChangeSet, List.find?_map, Option.map_map]
    congr 1
    · funext e
      dsimp only [Function.comp]
      split <;> rfl
    · congr 1
      funext e
      dsimp only [Function.comp]
      split
      · rw [hkey, hname]
      · rfl

theorem find?_updateChangeSet {f : ChangeSetRecord → ChangeSetRecord}
    (hkey : ∀ s, (f s).belongsTo key = s.belongsTo key) (hname : ∀ s, (f s).name = s.name)
    (hfind : c.find? key h = some (id, s)) :
    (c.updateChangeSet id f).find? key h = some (id, f s) := by
  obtain ⟨i, hid, hmap⟩ := Option.bind_eq_some_iff.1 hfind
  obtain ⟨x, hx, heq⟩ := Option.map_eq_some_iff.1 hmap
  obtain ⟨rfl, rfl⟩ := Prod.mk.inj heq
  rw [find?, idOf?_updateChangeSet hkey hname, hid, Option.bind_some, changeSet?_updateChangeSet,
    hx, Option.map_some, if_pos rfl]
  rfl

theorem find?_execute (hfind : c.find? key h = some (id, s)) :
    (c.execute key id s).find? key h = some (id, executedRecord s) := by
  have hupdated : (c.updateChangeSet id executedRecord).find? key h =
      some (id, executedRecord s) :=
    find?_updateChangeSet (fun _ => rfl) (fun _ => rfl) hfind
  unfold execute
  split <;> exact hupdated

theorem not_taken_of_changeSetsOf (hclear : c.changeSetsOf key = []) (name : String) :
    ¬ c.Taken key name := by
  rintro ⟨e, he, hkey, -⟩
  exact List.filter_eq_nil_iff.1 hclear e he hkey

theorem find?_named_eq_none (hclear : c.changeSetsOf key = []) (name : String) :
    (c.changeSets.find? fun (_, s) => s.belongsTo key && s.name == name) = none := by
  rw [List.find?_eq_none]
  intro e he hsel
  rw [Bool.and_eq_true] at hsel
  exact List.filter_eq_nil_iff.1 hclear e he hsel.1

theorem find?_of_changeSetsOf (hclear : c.changeSetsOf key = []) (hid : h.id = none) :
    c.find? key h = none := by
  rw [find?, idOf?, hid]
  dsimp only
  rw [find?_named_eq_none hclear]
  rfl

/-- Where no change set is in the way, a new one is found by its name. -/
theorem Coherent.find?_addChangeSet (hcoherent : Coherent c) (hclear : c.changeSetsOf key = [])
    (hkey : s.belongsTo key = true) :
    (c.addChangeSet s).2.find? key (.named s.name) =
      some (changeSetArn s.region s.name (c.issued + 1), s) := by
  have hfirst : ((c.addChangeSet s).2.changeSets.find?
      fun (_, r) => r.belongsTo key && r.name == s.name) =
      some (changeSetArn s.region s.name (c.issued + 1), s) := by
    show (c.changeSets ++ [_]).find? _ = _
    rw [List.find?_append, find?_named_eq_none hclear, Option.none_or]
    exact List.find?_cons_of_pos (by simp [hkey])
  have hstored : (c.addChangeSet s).2.changeSet? (changeSetArn s.region s.name (c.issued + 1)) =
      some s :=
    (hcoherent.addChangeSet s).changeSet?_eq_some_iff.2
      (List.mem_append_right _ List.mem_cons_self)
  rw [find?, idOf?]
  dsimp only [ChangeSetHandle.named]
  rw [hfirst, Option.map_some, Option.bind_some, hstored, Option.map_some]

theorem phaseOf_executedRecord (hphase : phaseOf (id, s) = .readyForExecution) :
    phaseOf (id, executedRecord s) = .success := by
  obtain ⟨hstatus, -⟩ := ChangeSetDescription.available_of_readyForExecution hphase
  have hexecuted : ∀ d : ChangeSetDescription, d.status = "CREATE_COMPLETE" →
      d.execution = "EXECUTE_COMPLETE" → d.phase = .success := by
    intro d hd hexecution
    have hempty : d.isEmptyFailure = false := by
      rw [ChangeSetDescription.isEmptyFailure, hd]
      rfl
    have hmoving : d.isTransitional = false := by
      rw [ChangeSetDescription.isTransitional, hd, hexecution]
      simp
    have hfailed : d.isFailure = false := by
      rw [ChangeSetDescription.isFailure, hd, hexecution]
      simp
    unfold ChangeSetDescription.phase
    rw [hempty, hmoving, hfailed, hd, hexecution]
    simp
  exact hexecuted _ hstatus rfl

theorem phaseOf_emptyRecordOf (id : String) (r : ChangeSetRequest) :
    phaseOf (id, emptyRecordOf r) = .empty := by
  have hphase : ChangeSetDescription.phase
      ⟨.named "", "FAILED", some "UNAVAILABLE", some noChangesReason, []⟩ = .empty := rfl
  exact hphase

end MemoryCloud

/-! ## Moves by phase -/

theorem move_of_phase_readyForExecution {d : ChangeSetDescription}
    (h : d.phase = .readyForExecution) : d.move = .execute := by
  unfold ChangeSetDescription.move
  rw [h]

theorem move_of_phase_empty {d : ChangeSetDescription} (h : d.phase = .empty) :
    d.move = .deleteEmpty := by
  unfold ChangeSetDescription.move
  rw [h]

namespace TargetStack

/-- The target of the next round over the same object, once the reference is recorded. -/
def following (t : TargetStack) (reference : String) : TargetStack :=
  { t with changeSet := attemptHandle (some reference) t.changeSet.name }

/-- A round goes on to the change set. -/
def Open (t : TargetStack) (c : MemoryCloud) : Prop :=
  ∃ isCreate recovering,
    StackMove.ofFound ((c.stack? t.key).map (stackDescription t.region t.stackName)) =
      .changeSet isCreate recovering

/-- The stack has the template of the target. -/
def Holds (t : TargetStack) (c : MemoryCloud) : Prop :=
  (c.stack? t.key).bind (·.template) = some t.source

/-- The turns there are before the one that says ready, at most. -/
inductive Ahead (t : TargetStack) (c : MemoryCloud) : Nat → Prop where
  | troubled {s : StackRecord} : t.changeSet.id = none → c.changeSetsOf t.key = [] →
      c.stack? t.key = some s →
      StackRecord.phase s = .rollbackContinuationNeeded ∨
        StackRecord.phase s = .unrecoverableFailure → Ahead t c 3
  | vacant : t.changeSet.id = none → c.changeSetsOf t.key = [] → t.Open c → Ahead t c 2
  | made {s : StackRecord} {id : String} {r : ChangeSetRecord} : t.Open c →
      c.stack? t.key = some s → c.find? t.key t.changeSet = some (id, r) →
      phaseOf (id, r) = .readyForExecution → r.template = some t.source → Ahead t c 1
  | settled {id : String} {r : ChangeSetRecord} : t.Open c → t.Holds c →
      c.find? t.key t.changeSet = some (id, r) →
      phaseOf (id, r) = .success ∨ phaseOf (id, r) = .empty → Ahead t c 0

variable {t : TargetStack} {c c' : MemoryCloud} {k : Nat} {id : String} {r : ChangeSetRecord}
  {s : StackRecord}

theorem source_following (reference : String) : (t.following reference).source = t.source := by
  rw [source, source, objectKey, objectKey]
  dsimp only [following]
  rw [attemptHandle_name]

theorem Open.following (h : t.Open c) (reference : String) : (t.following reference).Open c := h

theorem Holds.following (h : t.Holds c) (reference : String) : (t.following reference).Holds c :=
  h.trans (congrArg some (source_following reference).symm)

theorem open_of_none (hstack : c.stack? t.key = none) : t.Open c := by
  rw [Open, hstack]
  exact ⟨true, false, rfl⟩

theorem open_of_phase (hstack : c.stack? t.key = some s)
    (hphase : StackRecord.phase s ∈
      [StackPhase.notCreated, .success, .recoverableFailure]) : t.Open c := by
  have hmove : (stackDescription t.region t.stackName s).phase ∈
      [StackPhase.notCreated, .success, .recoverableFailure] := hphase
  rw [Open, hstack]
  show ∃ isCreate recovering, (stackDescription t.region t.stackName s).move = _
  unfold StackDescription.move
  simp only [List.mem_cons, List.not_mem_nil, or_false] at hmove
  rcases hmove with hmove | hmove | hmove <;> rw [hmove]
  · exact ⟨true, false, rfl⟩
  · exact ⟨false, false, rfl⟩
  · exact ⟨false, true, rfl⟩

/-- What a round records of the change set it has found or made leads the next one to it. -/
theorem find?_following (hcoherent : Coherent c) (recorded : Option String)
    (hfind : c.find? t.key (attemptHandle recorded t.changeSet.name) = some (id, r)) :
    c.find? (t.following id).key (t.following id).changeSet = some (id, r) :=
  hcoherent.find?_again hfind

namespace Ahead

theorem of_sameStore (h : t.Ahead c k) (hs : SameStore c c') : t.Ahead c' k := by
  have hopen : t.Open c → t.Open c' := by
    intro hopen
    rw [Open, hs.stack?]
    exact hopen
  have hclear : c.changeSetsOf t.key = [] → c'.changeSetsOf t.key = [] := by
    intro hclear
    rw [changeSetsOf, hs.changeSets]
    exact hclear
  cases h with
  | troubled hid hnone hstack hphase =>
    exact .troubled hid (hclear hnone) ((hs.stack? _).trans hstack) hphase
  | vacant hid hnone hstack => exact .vacant hid (hclear hnone) (hopen hstack)
  | made hstack hfound hfind hphase htemplate =>
    exact .made (hopen hstack) ((hs.stack? _).trans hfound) ((hs.find? _ _).trans hfind) hphase
      htemplate
  | settled hstack hholds hfind hphase =>
    refine .settled (hopen hstack) ?_ ((hs.find? _ _).trans hfind) hphase
    rw [Holds, hs.stack?]
    exact hholds

/-! ## Turns -/

theorem find?_made (hcoherent : Coherent c) (hclear : c.changeSetsOf t.key = [])
    (hregion : r.region = t.region) (hstack : r.stack = t.stackName)
    (hname : r.name = t.changeSet.name) :
    let arn := changeSetArn t.region t.changeSet.name (c.issued + 1)
    (c.addChangeSet r).2.find? (t.following arn).key (t.following arn).changeSet =
      some (arn, r) := by
  have hkey : r.belongsTo t.key = true := by
    rw [ChangeSetRecord.belongsTo, hregion, hstack]
    exact beq_self_eq_true _
  have hfind := hcoherent.find?_addChangeSet hclear hkey
  rw [hregion, hname] at hfind
  exact find?_following (hcoherent.addChangeSet r) none hfind

theorem of_create (hstack : c.stack? t.key = some reservedStack)
    (hfind : c.find? (t.following id).key (t.following id).changeSet =
      some (id, recordOf (t.request t.source) true)) :
    (t.following id).Ahead c 1 := by
  have hopen : t.Open c := open_of_phase hstack (by simp [reservedStack_phase])
  exact .made hopen hstack hfind (phaseOf_recordOf _ _ _)
    (congrArg some (source_following id).symm)

/-- An update makes a change set that is ready to be executed, or an empty one if the stack has the
template already. -/
theorem of_update (hopen : t.Open c) (hstack : c.stack? t.key = some s)
    (hfind : c.find? (t.following id).key (t.following id).changeSet =
      some (id, updateRecord (t.request t.source) s)) :
    ∃ k < 2, (t.following id).Ahead c k := by
  by_cases hsame : s.template = some (t.request t.source).template
  · have hholds : t.Holds c := by
      rw [Holds, hstack]
      exact hsame
    rw [updateRecord, if_pos hsame] at hfind
    exact ⟨0, by omega, .settled hopen (hholds.following id) hfind
      (.inr (phaseOf_emptyRecordOf _ _))⟩
  · rw [updateRecord, if_neg hsame] at hfind
    exact ⟨1, by omega, .made hopen hstack hfind (phaseOf_recordOf _ _ _)
      (congrArg some (source_following id).symm)⟩

theorem turn_of_troubled (hself : t.following t.changeSet.reference = t)
    (hid : t.changeSet.id = none) (hclear : c.changeSetsOf t.key = [])
    (hstack : c.stack? t.key = some s)
    (hphase : StackRecord.phase s = .rollbackContinuationNeeded ∨
      StackRecord.phase s = .unrecoverableFailure) :
    (t.turn true c).verdict = .false ∧
      (t.following (t.turn true c).reference).Ahead (t.turn true c).cloud 2 := by
  have hfound : StackMove.ofFound ((c.stack? t.key).map (stackDescription t.region t.stackName)) =
      (stackDescription t.region t.stackName s).move := by
    rw [hstack]
    rfl
  rcases hphase with hphase | hphase
  · have hmove : (stackDescription t.region t.stackName s).move = .continueRollback := by
      unfold StackDescription.move
      rw [show (stackDescription t.region t.stackName s).phase = _ from hphase]
    have hput : (c.putRecord t.key (rolledBack s)).stack? t.key = some (rolledBack s) := by
      rw [stack?_putRecord, if_pos rfl]
    rw [turn_of_move (hfound.trans hmove), stackTurn_continueRollback hstack]
    dsimp only
    rw [hself]
    exact ⟨rfl, .vacant hid hclear (open_of_phase hput (by simp [rolledBack_phase]))⟩
  · obtain ⟨message, hmove⟩ : ∃ message, (stackDescription t.region t.stackName s).move =
        .deleteUnrecoverable message := by
      unfold StackDescription.move
      rw [show (stackDescription t.region t.stackName s).phase = _ from hphase]
      exact ⟨_, rfl⟩
    have herased : (c.eraseStack t.key).stack? t.key = none := by
      rw [stack?_eraseStack, if_pos rfl]
    rw [turn_of_move (hfound.trans hmove), stackTurn]
    dsimp only
    rw [hself]
    exact ⟨rfl, .vacant hid changeSetsOf_eraseStack (open_of_none herased)⟩

theorem turn_of_vacant (hcoherent : Coherent c) (hid : t.changeSet.id = none)
    (hclear : c.changeSetsOf t.key = []) (hopen : t.Open c) :
    (t.turn true c).verdict = .unknown ∧
      ∃ k < 2, (t.following (t.turn true c).reference).Ahead (t.turn true c).cloud k := by
  obtain ⟨isCreate, recovering, hmove⟩ := id hopen
  have hfree := not_taken_of_changeSetsOf hclear t.changeSet.name
  rw [turn_of_move hmove, stackTurn, changeSetTurn_of_none (find?_of_changeSetsOf hclear hid)]
  cases isCreate with
  | true =>
    rw [submitTurn_create hfree]
    refine ⟨rfl, 1, by omega, ?_⟩
    have hput : ((c.putRecord t.key reservedStack).addChangeSet
        (recordOf (t.request t.source) true)).2.stack? t.key = some reservedStack := by
      show (c.putRecord t.key reservedStack).stack? t.key = _
      rw [stack?_putRecord, if_pos rfl]
    have hreserved : Coherent (c.putRecord t.key reservedStack) :=
      hcoherent.of_changeSets_eq rfl rfl
    have hfind := find?_made (c := c.putRecord t.key reservedStack)
      (r := recordOf (t.request t.source) true) hreserved hclear rfl rfl rfl
    exact of_create hput hfind
  | false =>
    cases hstack : c.stack? t.key with
    | none =>
      rw [hstack] at hmove
      cases hmove
    | some s =>
      rw [submitTurn_update hfree hstack]
      refine ⟨rfl, ?_⟩
      have hfind := find?_made (r := updateRecord (t.request t.source) s) hcoherent hclear
        (updateRecord_region _ _) (updateRecord_stack _ _) (updateRecord_name _ _)
      exact of_update hopen hstack hfind

theorem turn_of_made (hself : t.following t.changeSet.reference = t) (hcoherent : Coherent c)
    (hopen : t.Open c) (hstack : c.stack? t.key = some s)
    (hfind : c.find? t.key t.changeSet = some (id, r))
    (hphase : phaseOf (id, r) = .readyForExecution) (htemplate : r.template = some t.source) :
    (t.turn true c).verdict = .unknown ∧
      (t.following (t.turn true c).reference).Ahead (t.turn true c).cloud 0 := by
  obtain ⟨isCreate, recovering, hmove⟩ := hopen
  rw [turn_of_move hmove, stackTurn,
    changeSetTurn_of_move hfind (move_of_phase_readyForExecution hphase)]
  dsimp only [moveTurn]
  refine ⟨rfl, ?_⟩
  have hdeployed : (c.execute t.key id r).stack? t.key = some (deployed r) := by
    rw [stack?_execute, if_pos rfl, hstack, Option.map_some]
  rw [← congrArg changeSet hself] at hfind
  have hexecuted : (c.execute t.key id r).find? (t.following id).key (t.following id).changeSet =
      some (id, executedRecord r) := find?_execute (find?_following hcoherent _ hfind)
  refine .settled (open_of_phase hdeployed (by simp [deployed_phase])) ?_ hexecuted
    (.inl (phaseOf_executedRecord hphase))
  refine Holds.following ?_ id
  rw [Holds, hdeployed]
  exact htemplate

theorem turn_of_settled (hopen : t.Open c) (hholds : t.Holds c)
    (hfind : c.find? t.key t.changeSet = some (id, r))
    (hphase : phaseOf (id, r) = .success ∨ phaseOf (id, r) = .empty) :
    (t.turn true c).verdict = .true ∧ t.Holds (t.turn true c).cloud := by
  obtain ⟨isCreate, recovering, hmove⟩ := hopen
  rw [turn_of_move hmove, stackTurn]
  rcases hphase with hphase | hphase
  · rw [changeSetTurn_of_move hfind (move_of_phase_success hphase)]
    exact ⟨rfl, hholds⟩
  · rw [changeSetTurn_of_move hfind (move_of_phase_empty hphase)]
    exact ⟨rfl, hholds⟩

/-- A turn either says ready, with the template deployed, or it leaves less to do for the next. -/
theorem turn (h : t.Ahead c k) (hcoherent : Coherent c)
    (hself : t.following t.changeSet.reference = t) :
    ((t.turn true c).verdict = .true ∧ t.Holds (t.turn true c).cloud) ∨
      ((t.turn true c).verdict ≠ .true ∧
        ∃ k' < k, (t.following (t.turn true c).reference).Ahead (t.turn true c).cloud k') := by
  cases h with
  | troubled hid hclear hstack hphase =>
    obtain ⟨hverdict, hahead⟩ := turn_of_troubled hself hid hclear hstack hphase
    exact .inr ⟨by simp [hverdict], 2, by omega, hahead⟩
  | vacant hid hclear hopen =>
    obtain ⟨hverdict, hahead⟩ := turn_of_vacant hcoherent hid hclear hopen
    exact .inr ⟨by simp [hverdict], hahead⟩
  | made hopen hstack hfind hphase htemplate =>
    obtain ⟨hverdict, hahead⟩ :=
      turn_of_made hself hcoherent hopen hstack hfind hphase htemplate
    exact .inr ⟨by simp [hverdict], 0, by omega, hahead⟩
  | settled hopen hholds hfind hphase => exact .inl (turn_of_settled hopen hholds hfind hphase)

end Ahead

/-- A stack that is absent, or in a phase that is neither in progress nor unknown, is three turns
away at most. -/
theorem ahead_of_phase (hid : t.changeSet.id = none) (hclear : c.changeSetsOf t.key = [])
    (hphase : ∀ s, c.stack? t.key = some s →
      StackRecord.phase s ∈ [StackPhase.notCreated, .success, .recoverableFailure,
        .rollbackContinuationNeeded, .unrecoverableFailure]) :
    ∃ k ≤ 3, t.Ahead c k := by
  cases hstack : c.stack? t.key with
  | none => exact ⟨2, by omega, .vacant hid hclear (open_of_none hstack)⟩
  | some s =>
    have hopen : StackRecord.phase s ∈ [StackPhase.notCreated, .success, .recoverableFailure] →
        ∃ k ≤ 3, t.Ahead c k := fun hopen =>
      ⟨2, by omega, .vacant hid hclear (open_of_phase hstack hopen)⟩
    have hs := hphase s hstack
    simp only [List.mem_cons, List.not_mem_nil, or_false] at hs
    rcases hs with hs | hs | hs | hs | hs
    · exact hopen (by simp [hs])
    · exact hopen (by simp [hs])
    · exact hopen (by simp [hs])
    · exact ⟨3, by omega, .troubled hid hclear hstack (.inl hs)⟩
    · exact ⟨3, by omega, .troubled hid hclear hstack (.inr hs)⟩

end TargetStack

end StackSync

import StackSync.Proofs.Cloud.Replay

/-!
# A cloud on which nothing is made to fail

The laws of the operations leave open whether a call fails, since a rehearsal may make it. Where no
operation is made to fail the answer is decided by what is stored: looking up and deleting succeed
always, and the others are refused only for what they were asked to act on. A conversation breaks
nothing, so such a cloud goes on working.
-/

namespace StackSync

namespace MemoryCloud

def Works (c : MemoryCloud) : Prop := c.failures = []

theorem SameStore.works {c c' : MemoryCloud} (hs : SameStore c c') (h : c.Works) : c'.Works :=
  hs.failures.trans h

namespace Works

variable {c c' : MemoryCloud} {region name : String} {h : ChangeSetHandle} {r : ChangeSetRequest}

theorem lookup (hworks : c.Works) (op : CloudOperation) : c.failures.lookup op = none := by
  rw [show c.failures = [] from hworks]
  rfl

theorem perform {α : Type} {op : CloudOperation} {stack : String} {changeSet : Option String}
    {act : CloudAction α} {answer : CloudAnswer α} (hworks : c.Works)
    (hrun : MemoryCloud.perform op stack changeSet act c = (answer, c')) :
    ∃ log : MemoryCloud, SameStore c log ∧ act log = (answer, c') := by
  obtain ⟨log, hlog, ⟨detail, hfails, -, -⟩ | ⟨-, hact⟩⟩ := perform_cases hrun
  · rw [hworks.lookup] at hfails
    cases hfails
  · exact ⟨log, hlog, hact⟩

theorem describeStack {answer : CloudAnswer (Option StackDescription)} (hworks : c.Works)
    (hrun : MemoryCloud.describeStack region name c = (answer, c')) :
    answer = .ok ((c.stack? (region, name)).map (stackDescription region name)) ∧
      SameStore c c' := by
  obtain ⟨log, hlog, hact⟩ := hworks.perform hrun
  obtain ⟨rfl, rfl⟩ := Prod.mk.inj hact
  rw [hlog.stack?]
  exact ⟨rfl, hlog⟩

theorem describeChangeSet {answer : CloudAnswer (Option ChangeSetDescription)} (hworks : c.Works)
    (hrun : MemoryCloud.describeChangeSet region name h c = (answer, c')) :
    answer = .ok ((c.find? (region, name) h).map description) ∧ SameStore c c' := by
  obtain ⟨hs, hfound⟩ := describeChangeSet_law hrun
  obtain ⟨log, hlog, hact⟩ := hworks.perform hrun
  obtain ⟨rfl, rfl⟩ := Prod.mk.inj hact
  exact ⟨congrArg _ (hfound _ rfl), hs⟩

theorem deleteStack {answer : CloudAnswer Unit} (hworks : c.Works)
    (hrun : MemoryCloud.deleteStack region name c = (answer, c')) :
    answer = .ok () ∧ SameStore (c.eraseStack (region, name)) c' := by
  obtain ⟨log, hlog, hact⟩ := hworks.perform hrun
  obtain ⟨rfl, rfl⟩ := Prod.mk.inj hact
  exact ⟨rfl, hlog.eraseStack _⟩

theorem continueUpdateRollback {answer : CloudAnswer Unit} {s : StackRecord} (hworks : c.Works)
    (hstack : c.stack? (region, name) = some s)
    (hrun : MemoryCloud.continueUpdateRollback region name c = (answer, c')) :
    answer = .ok () ∧ SameStore (c.putRecord (region, name) (rolledBack s)) c' := by
  obtain ⟨log, hlog, hact⟩ := hworks.perform hrun
  rw [hlog.stack?, hstack] at hact
  obtain ⟨rfl, rfl⟩ := Prod.mk.inj hact
  exact ⟨rfl, hlog.putRecord _ _⟩

theorem executeChangeSet {answer : CloudAnswer Unit} {id : String} {s : ChangeSetRecord}
    (hworks : c.Works) (hfind : c.find? (region, name) h = some (id, s))
    (havailable : s.executionStatus = some "AVAILABLE")
    (hrun : MemoryCloud.executeChangeSet region name h c = (answer, c')) :
    answer = .ok () ∧ SameStore (c.execute (region, name) id s) c' := by
  obtain ⟨log, hlog, hact⟩ := hworks.perform hrun
  have hfound : ((log.idOf? (region, name) h).bind fun id => (log.changeSet? id).map (id, ·)) =
      some (id, s) := (hlog.find? _ _).trans hfind
  dsimp only at hact
  rw [hfound] at hact
  dsimp only at hact
  rw [if_neg (not_not_intro havailable)] at hact
  obtain ⟨rfl, rfl⟩ := Prod.mk.inj hact
  exact ⟨rfl, hlog.execute _ id s⟩

theorem deleteChangeSet {answer : CloudAnswer Unit} {id : String} (hworks : c.Works)
    (hid : c.idOf? (region, name) h = some id)
    (hrun : MemoryCloud.deleteChangeSet region name h c = (answer, c')) :
    answer = .ok () ∧ SameStore (c.eraseChangeSet id) c' := by
  obtain ⟨log, hlog, hact⟩ := hworks.perform hrun
  obtain ⟨rfl, rfl⟩ := Prod.mk.inj hact
  refine ⟨rfl, ?_⟩
  rw [hlog.idOf?, hid]
  exact hlog.eraseChangeSet id

/-- A request for a change set is refused where the name is taken, and for an update where there is
no stack. -/
theorem createStack {answer : CloudAnswer ChangeSetHandle} (hworks : c.Works)
    (hfree : ¬ c.Taken (r.region, r.stackName) r.changeSetName)
    (hrun : MemoryCloud.createStack r c = (answer, c')) :
    answer = .ok ⟨r.changeSetName,
      some (changeSetArn r.region r.changeSetName (c.issued + 1))⟩ ∧
      SameStore ((c.putRecord (r.region, r.stackName) reservedStack).addChangeSet
        (recordOf r true)).2 c' := by
  rcases createStack_law hrun with ⟨_, hfails, -, -⟩ | ⟨-, htaken, -, -⟩ | ⟨-, -, hanswer, hs⟩
  · rw [hworks.lookup] at hfails
    cases hfails
  · exact absurd htaken hfree
  · exact ⟨hanswer, hs⟩

theorem updateStack {answer : CloudAnswer ChangeSetHandle} {s : StackRecord} (hworks : c.Works)
    (hfree : ¬ c.Taken (r.region, r.stackName) r.changeSetName)
    (hstack : c.stack? (r.region, r.stackName) = some s)
    (hrun : MemoryCloud.updateStack r c = (answer, c')) :
    answer = .ok ⟨r.changeSetName,
      some (changeSetArn r.region r.changeSetName (c.issued + 1))⟩ ∧
      SameStore (c.addChangeSet (updateRecord r s)).2 c' := by
  rcases updateStack_law hrun with
    ⟨_, hfails, -, -⟩ | ⟨-, htaken, -, -⟩ | ⟨-, -, hnone, -, -⟩ | ⟨s', -, -, hstack', hanswer, hs⟩
  · rw [hworks.lookup] at hfails
    cases hfails
  · exact absurd htaken hfree
  · rw [hstack] at hnone
    cases hnone
  · obtain rfl : s = s' := Option.some.inj (hstack.symm.trans hstack')
    exact ⟨hanswer, hs⟩

end Works

/-! ## No conversation breaks an operation -/

theorem Answers.failures {c c' : MemoryCloud} {r : Request} {answer : r.Answer}
    (h : c.Answers r answer c') : c'.failures = c.failures := by
  obtain ⟨edited, hedits, hs⟩ := h.edits
  refine hs.failures.trans ?_
  cases hedits with
  | execute =>
    rw [MemoryCloud.execute]
    split <;> rfl
  | nothing | create | update | erase | resume | drop => rfl

theorem Replay.works {c c' : MemoryCloud} {es : List Program.Exchange} (h : Replay c es c')
    (hworks : c.Works) : c'.Works := by
  induction h with
  | nil c => exact hworks
  | cons hanswer _ ih => exact ih (hanswer.failures.trans hworks)

end MemoryCloud

end StackSync

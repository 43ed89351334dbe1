import StackSync.Proofs.Cloud.Handle

/-!
# What the operations of the cloud in memory do

A call is logged whether it succeeds or not, and nothing that is proved here depends on the log. So
each operation has one law, about everything but the log: either it fails and the cloud stays as it
was, or it succeeds and one named change has been made. Before the laws comes what is found in a
cloud after each of these changes, and that they leave no change set without its stack.
-/

namespace StackSync

namespace MemoryCloud

/-- The clouds differ in their logs at most. -/
structure SameStore (c c' : MemoryCloud) : Prop where
  records : c'.records = c.records
  changeSets : c'.changeSets = c.changeSets
  failures : c'.failures = c.failures
  issued : c'.issued = c.issued

theorem SameStore.refl (c : MemoryCloud) : SameStore c c := ⟨rfl, rfl, rfl, rfl⟩

theorem SameStore.trans {a b c : MemoryCloud} (hab : SameStore a b) (hbc : SameStore b c) :
    SameStore a c :=
  ⟨hbc.records.trans hab.records, hbc.changeSets.trans hab.changeSets,
    hbc.failures.trans hab.failures, hbc.issued.trans hab.issued⟩

theorem stack?_congr {c c' : MemoryCloud} (h : c'.records = c.records) (key : StackKey) :
    c'.stack? key = c.stack? key := by
  rw [stack?, stack?, h]

theorem SameStore.stack? {c c' : MemoryCloud} (h : SameStore c c') (key : StackKey) :
    c'.stack? key = c.stack? key := stack?_congr h.records key

theorem SameStore.changeSet? {c c' : MemoryCloud} (h : SameStore c c') (id : String) :
    c'.changeSet? id = c.changeSet? id := by
  rw [MemoryCloud.changeSet?, MemoryCloud.changeSet?, h.changeSets]

/-- The change set a handle refers to, with its ARN. -/
def find? (c : MemoryCloud) (key : StackKey) (h : ChangeSetHandle) :
    Option (String × ChangeSetRecord) :=
  (c.idOf? key h).bind fun id => (c.changeSet? id).map (id, ·)

theorem SameStore.idOf? {c c' : MemoryCloud} (hs : SameStore c c') (key : StackKey)
    (h : ChangeSetHandle) :
    c'.idOf? key h = c.idOf? key h := by
  simp only [MemoryCloud.idOf?, hs.changeSet?, hs.changeSets]

theorem SameStore.find? {c c' : MemoryCloud} (hs : SameStore c c') (key : StackKey)
    (h : ChangeSetHandle) :
    c'.find? key h = c.find? key h := by
  simp only [MemoryCloud.find?, hs.changeSet?, hs.idOf?]

theorem changeSet?_of_find? {c : MemoryCloud} {key : StackKey} {h : ChangeSetHandle} {id : String}
    {s : ChangeSetRecord} (hfind : c.find? key h = some (id, s)) : c.changeSet? id = some s := by
  obtain ⟨i, -, hmap⟩ := Option.bind_eq_some_iff.1 hfind
  obtain ⟨x, hx, heq⟩ := Option.map_eq_some_iff.1 hmap
  obtain ⟨rfl, rfl⟩ := Prod.mk.inj heq
  exact hx

theorem idOf?_of_changeSet? {c : MemoryCloud} {id : String} {s : ChangeSetRecord}
    (hs : c.changeSet? id = some s) (key : StackKey)
    (n : String) : c.idOf? key ⟨n, some id⟩ = some id := by
  simp only [idOf?, hs, Option.isSome_some, if_true]

theorem find?_of_changeSet? {c : MemoryCloud} {id : String} {s : ChangeSetRecord}
    (hs : c.changeSet? id = some s) (key : StackKey)
    (n : String) : c.find? key ⟨n, some id⟩ = some (id, s) := by
  rw [find?, idOf?_of_changeSet? hs, Option.bind_some, hs, Option.map_some]

def description (found : String × ChangeSetRecord) : ChangeSetDescription :=
  ⟨⟨found.2.name, some found.1⟩, found.2.status, found.2.executionStatus, found.2.reason, []⟩

def stackDescription (region name : String) (s : StackRecord) : StackDescription :=
  ⟨name, some (stackArn region name), s.status, s.reason⟩

def Taken (c : MemoryCloud) (key : StackKey) (name : String) : Prop :=
  ∃ e ∈ c.changeSets, e.2.belongsTo key = true ∧ e.2.name = name

def alreadyExists (name : String) : CloudError :=
  .api ("AlreadyExistsException: ChangeSet " ++ name ++ " already exists")

/-- The change set that updating a stack makes: an empty one, if the template is deployed
already. -/
def updateRecord (r : ChangeSetRequest) (s : StackRecord) : ChangeSetRecord :=
  if s.template = some r.template then emptyRecordOf r else recordOf r false

section

variable (r : ChangeSetRequest) (s : StackRecord)

@[simp] theorem updateRecord_region : (updateRecord r s).region = r.region := by
  unfold updateRecord
  split <;> rfl

@[simp] theorem updateRecord_stack : (updateRecord r s).stack = r.stackName := by
  unfold updateRecord
  split <;> rfl

@[simp] theorem updateRecord_name : (updateRecord r s).name = r.changeSetName := by
  unfold updateRecord
  split <;> rfl

@[simp] theorem updateRecord_template : (updateRecord r s).template = some r.template := by
  unfold updateRecord
  split <;> rfl

end

def executedRecord (s : ChangeSetRecord) : ChangeSetRecord :=
  { s with executionStatus := some "EXECUTE_COMPLETE" }

def execute (c : MemoryCloud) (key : StackKey) (id : String) (s : ChangeSetRecord) : MemoryCloud :=
  if (c.stack? key).isSome then (c.updateChangeSet id executedRecord).putRecord key (deployed s)
  else c.updateChangeSet id executedRecord

/-! ## Looking up what has been changed -/

section
variable {α β : Type} [BEq α] [LawfulBEq α] [DecidableEq α] (l : List (α × β)) (key key' : α)

theorem lookup_filter_ne :
    (l.filter (·.1 ≠ key)).lookup key' = if key' = key then none else l.lookup key' := by
  induction l with
  | nil => simp
  | cons e rest ih =>
    obtain ⟨k, s⟩ := e
    by_cases hk : k = key
    · subst hk
      rw [List.filter_cons_of_neg (by simp), ih, List.lookup_cons]
      split
      · rfl
      · next hne => rw [beq_false_of_ne hne]
    · rw [List.filter_cons_of_pos (by simpa using hk), List.lookup_cons, List.lookup_cons, ih]
      by_cases hkey : key' = k
      · subst hkey
        rw [beq_self_eq_true]
        exact (if_neg hk).symm
      · rw [beq_false_of_ne hkey]

theorem lookup_cons_filter_ne (value : β) :
    ((key, value) :: l.filter (·.1 ≠ key)).lookup key' =
      if key' = key then some value else l.lookup key' := by
  rw [List.lookup_cons, lookup_filter_ne]
  by_cases hkey : key' = key
  · subst hkey
    rw [beq_self_eq_true]
    exact (if_pos rfl).symm
  · rw [beq_false_of_ne hkey, if_neg hkey, if_neg hkey]

end

theorem stack?_putRecord (c : MemoryCloud) (key key' : StackKey) (s : StackRecord) :
    (c.putRecord key s).stack? key' = if key' = key then some s else c.stack? key' :=
  lookup_cons_filter_ne c.records key key' s

theorem stack?_eraseStack (c : MemoryCloud) (key key' : StackKey) :
    (c.eraseStack key).stack? key' = if key' = key then none else c.stack? key' :=
  lookup_filter_ne c.records key key'

theorem records_eq_nil_iff {c : MemoryCloud} : c.records = [] ↔ ∀ key, c.stack? key = none := by
  constructor
  · intro hnil key
    rw [stack?, hnil]
    rfl
  · intro hnone
    cases hrecords : c.records with
    | nil => rfl
    | cons e rest =>
      have hfirst := hnone e.1
      rw [stack?, hrecords, List.lookup_cons_self] at hfirst
      cases hfirst

theorem stack?_execute (c : MemoryCloud) (key : StackKey) (id : String) (s : ChangeSetRecord)
    (key' : StackKey) : (c.execute key id s).stack? key' =
      if key' = key then (c.stack? key).map fun _ => deployed s else c.stack? key' := by
  unfold execute
  cases hstack : c.stack? key with
  | none =>
    rw [Option.isSome_none, if_neg Bool.false_ne_true]
    split
    · next hkey => exact hkey ▸ hstack
    · rfl
  | some stack =>
    rw [Option.isSome_some, if_pos rfl]
    exact stack?_putRecord _ key key' (deployed s)

section

variable {c : MemoryCloud} {key : StackKey} {id : String} {e : String × ChangeSetRecord}

theorem mem_eraseStack_iff :
    e ∈ (c.eraseStack key).changeSets ↔ e ∈ c.changeSets ∧ (e.2.region, e.2.stack) ≠ key := by
  show e ∈ c.changeSets.filter _ ↔ _
  rw [List.mem_filter, Bool.not_eq_true', ChangeSetRecord.belongsTo, beq_eq_false_iff_ne]

@[simp] theorem changeSetsOf_eraseStack : (c.eraseStack key).changeSetsOf key = [] := by
  refine List.filter_eq_nil_iff.2 fun e he hkey => (mem_eraseStack_iff.1 he).2 ?_
  exact beq_iff_eq.1 hkey

/-- A change set keeps its ARN when it is updated. -/
theorem exists_of_mem_updateChangeSet {f : ChangeSetRecord → ChangeSetRecord}
    (h : e ∈ (c.updateChangeSet id f).changeSets) :
    ∃ s, (e.1, s) ∈ c.changeSets ∧ e.2 = if e.1 = id then f s else s := by
  obtain ⟨⟨i, s⟩, hmem, rfl⟩ := List.mem_map.1 h
  refine ⟨s, ?_⟩
  dsimp only
  split
  · exact ⟨hmem, rfl⟩
  · exact ⟨hmem, rfl⟩

theorem changeSets_execute (c : MemoryCloud) (key : StackKey) (id : String) (s : ChangeSetRecord) :
    (c.execute key id s).changeSets = (c.updateChangeSet id executedRecord).changeSets := by
  unfold execute
  split <;> rfl

theorem issued_execute (c : MemoryCloud) (key : StackKey) (id : String) (s : ChangeSetRecord) :
    (c.execute key id s).issued = c.issued := by
  unfold execute
  split <;> rfl

theorem exists_of_mem_execute {s : ChangeSetRecord} (h : e ∈ (c.execute key id s).changeSets) :
    ∃ r, (e.1, r) ∈ c.changeSets ∧ e.2 = if e.1 = id then executedRecord r else r :=
  exists_of_mem_updateChangeSet (changeSets_execute c key id s ▸ h)

end

/-! What is done to clouds that differ in their logs leaves them so. -/

namespace SameStore

variable {c c' : MemoryCloud}

theorem putRecord (h : SameStore c c') (key : StackKey) (s : StackRecord) :
    SameStore (c.putRecord key s) (c'.putRecord key s) := by
  refine ⟨?_, h.changeSets, h.failures, h.issued⟩
  show _ :: c'.records.filter _ = _ :: c.records.filter _
  rw [h.records]

theorem eraseStack (h : SameStore c c') (key : StackKey) : SameStore (c.eraseStack key)
    (c'.eraseStack key) := by
  refine ⟨?_, ?_, h.failures, h.issued⟩
  · show c'.records.filter _ = c.records.filter _
    rw [h.records]
  · show c'.changeSets.filter _ = c.changeSets.filter _
    rw [h.changeSets]

theorem eraseChangeSet (h : SameStore c c') (id : String) :
    SameStore (c.eraseChangeSet id) (c'.eraseChangeSet id) := by
  refine ⟨h.records, ?_, h.failures, h.issued⟩
  show c'.changeSets.filter _ = c.changeSets.filter _
  rw [h.changeSets]

theorem addChangeSet (h : SameStore c c') (s : ChangeSetRecord) :
    SameStore (c.addChangeSet s).2 (c'.addChangeSet s).2 := by
  refine ⟨h.records, ?_, h.failures, ?_⟩
  · show c'.changeSets ++ [(changeSetArn _ _ (c'.issued + 1), _)] = _
    rw [h.changeSets, h.issued]
    rfl
  · show c'.issued + 1 = c.issued + 1
    rw [h.issued]

theorem execute (h : SameStore c c') (key : StackKey) (id : String) (s : ChangeSetRecord) :
    SameStore (c.execute key id s) (c'.execute key id s) := by
  have hupdate : SameStore (c.updateChangeSet id executedRecord)
      (c'.updateChangeSet id executedRecord) := by
    refine ⟨h.records, ?_, h.failures, h.issued⟩
    rw [updateChangeSet, updateChangeSet, h.changeSets]
  unfold MemoryCloud.execute
  rw [h.stack?]
  split
  · exact hupdate.putRecord key (deployed s)
  · exact hupdate

theorem taken_iff (h : SameStore c c') (key : StackKey) (n : String) :
    c'.Taken key n ↔ c.Taken key n := by
  rw [Taken, Taken, h.changeSets]

end SameStore

/-! ## Change sets have their stacks -/

/-- Every change set belongs to a stack that is there. -/
def Founded (c : MemoryCloud) : Prop :=
  ∀ e ∈ c.changeSets, (c.stack? (e.2.region, e.2.stack)).isSome = true

namespace Founded

variable {c c' : MemoryCloud}

theorem of_sublist (h : Founded c) (hrecords : c'.records = c.records)
    (hsets : c'.changeSets.Sublist c.changeSets) : Founded c' := by
  intro e he
  rw [stack?_congr hrecords]
  exact h e (hsets.subset he)

theorem putRecord (h : Founded c) (key : StackKey) (s : StackRecord) :
    Founded (c.putRecord key s) := by
  intro e he
  rw [stack?_putRecord]
  split
  · rfl
  · exact h e he

theorem eraseStack (h : Founded c) (key : StackKey) : Founded (c.eraseStack key) := by
  intro e he
  obtain ⟨hmem, hkey⟩ := mem_eraseStack_iff.1 he
  rw [stack?_eraseStack, if_neg hkey]
  exact h e hmem

theorem addChangeSet (h : Founded c) {s : ChangeSetRecord}
    (hstack : (c.stack? (s.region, s.stack)).isSome = true) : Founded (c.addChangeSet s).2 := by
  intro e he
  rcases List.mem_append.1 he with he | he
  · exact h e he
  · obtain rfl := List.mem_singleton.1 he
    exact hstack

theorem execute (h : Founded c) (key : StackKey) (id : String) (s : ChangeSetRecord) :
    Founded (c.execute key id s) := by
  intro e he
  obtain ⟨r, hmem, hrecord⟩ := exists_of_mem_execute he
  have hkey : (e.2.region, e.2.stack) = (r.region, r.stack) := by
    rw [hrecord]
    split <;> rfl
  have hfounded := h _ hmem
  rw [hkey, stack?_execute]
  split
  · next heq =>
    rw [Option.isSome_map, ← heq]
    exact hfounded
  · exact hfounded

end Founded

/-! ## One law an operation -/

variable {c c' : MemoryCloud} {region name : String} {h : ChangeSetHandle} {r : ChangeSetRequest}

/-- A call either happens in the logged cloud or fails, as the operation is made to. -/
theorem perform_cases {α : Type} {op : CloudOperation} {stack : String} {changeSet : Option String}
    {act : CloudAction α} {answer : CloudAnswer α}
    (hrun : perform op stack changeSet act c = (answer, c')) :
    ∃ log : MemoryCloud, SameStore c log ∧
      ((∃ detail, c.failures.lookup op = some detail ∧ answer = .error (.api detail) ∧ c' = log) ∨
        (c.failures.lookup op = none ∧ act log = (answer, c'))) := by
  refine ⟨{ c with calls := c.calls ++ [⟨op, stack, changeSet⟩] }, ⟨rfl, rfl, rfl, rfl⟩, ?_⟩
  unfold perform at hrun
  dsimp only at hrun
  split at hrun
  · next detail hfails =>
    obtain ⟨rfl, rfl⟩ := Prod.mk.inj hrun
    exact .inl ⟨detail, hfails, rfl, rfl⟩
  · next hworks => exact .inr ⟨hworks, hrun⟩

theorem describeStack_law {answer : CloudAnswer (Option StackDescription)}
    (hrun : describeStack region name c = (answer, c')) :
    SameStore c c' ∧ ∀ found, answer = .ok found →
      found = (c.stack? (region, name)).map (stackDescription region name) := by
  obtain ⟨log, hlog, ⟨detail, -, rfl, rfl⟩ | ⟨-, hact⟩⟩ := perform_cases hrun
  · refine ⟨hlog, fun found hfound => ?_⟩
    cases hfound
  · obtain ⟨rfl, rfl⟩ := Prod.mk.inj hact
    refine ⟨hlog, fun found hfound => ?_⟩
    rw [← Except.ok.inj hfound, hlog.stack?]
    rfl

theorem describeChangeSet_law {answer : CloudAnswer (Option ChangeSetDescription)}
    (hrun : describeChangeSet region name h c = (answer, c')) :
    SameStore c c' ∧ ∀ found, answer = .ok found →
    found = (c.find? (region, name) h).map description := by
  obtain ⟨log, hlog, ⟨detail, -, rfl, rfl⟩ | ⟨-, hact⟩⟩ := perform_cases hrun
  · refine ⟨hlog, fun found hfound => ?_⟩
    cases hfound
  · obtain ⟨rfl, rfl⟩ := Prod.mk.inj hact
    refine ⟨hlog, fun found hfound => ?_⟩
    have hid : log.idOf? (region, name) h = c.idOf? (region, name) h := hlog.idOf? _ _
    rw [← Except.ok.inj hfound, find?, hid]
    cases c.idOf? (region, name) h with
    | none => rfl
    | some id =>
      show (log.changeSet? id).bind _ = _
      rw [hlog.changeSet?]
      show _ = ((c.changeSet? id).map (id, ·)).map description
      cases c.changeSet? id <;> rfl

theorem any_changeSetsOf_iff (c : MemoryCloud) (key : StackKey) (n : String) :
    ((c.changeSetsOf key).any fun (_, s) => s.name == n) = true ↔ c.Taken key n := by
  rw [List.any_eq_true]
  constructor
  · rintro ⟨e, he, hname⟩
    obtain ⟨hmem, hkey⟩ := List.mem_filter.1 he
    exact ⟨e, hmem, hkey, by simpa using hname⟩
  · rintro ⟨e, hmem, hkey, hname⟩
    exact ⟨e, List.mem_filter.2 ⟨hmem, hkey⟩, by simpa using hname⟩

/-- A request for a change set is refused if the name is taken, and goes on otherwise. -/
theorem unlessTaken_cases {act : CloudAction ChangeSetHandle} {answer : CloudAnswer ChangeSetHandle}
    (hrun : unlessTaken r act c = (answer, c')) :
    (c.Taken (r.region, r.stackName) r.changeSetName ∧
      answer = .error (alreadyExists r.changeSetName) ∧ c' = c) ∨
      (¬ c.Taken (r.region, r.stackName) r.changeSetName ∧ act c = (answer, c')) := by
  unfold unlessTaken at hrun
  split at hrun
  · next htaken =>
    obtain ⟨rfl, rfl⟩ := Prod.mk.inj hrun
    exact .inl ⟨(any_changeSetsOf_iff c _ _).1 htaken, rfl, rfl⟩
  · next hfree => exact .inr ⟨fun htaken => hfree ((any_changeSetsOf_iff c _ _).2 htaken), hrun⟩

theorem createStack_law {answer : CloudAnswer ChangeSetHandle}
    (hrun : createStack r c = (answer, c')) :
    (∃ detail, c.failures.lookup .createStack = some detail ∧ answer = .error (.api detail) ∧
      SameStore c c') ∨
      (c.failures.lookup .createStack = none ∧ c.Taken (r.region, r.stackName) r.changeSetName ∧
        answer = .error (alreadyExists r.changeSetName) ∧ SameStore c c') ∨
      (c.failures.lookup .createStack = none ∧ ¬ c.Taken (r.region, r.stackName) r.changeSetName ∧
        answer = .ok ⟨r.changeSetName,
          some (changeSetArn r.region r.changeSetName (c.issued + 1))⟩ ∧
        SameStore ((c.putRecord (r.region, r.stackName) reservedStack).addChangeSet
          (recordOf r true)).2 c') := by
  obtain ⟨log, hlog, ⟨detail, hfails, rfl, rfl⟩ | ⟨hworks, hact⟩⟩ := perform_cases hrun
  · exact .inl ⟨detail, hfails, rfl, hlog⟩
  · refine .inr ?_
    rcases unlessTaken_cases hact with ⟨htaken, rfl, rfl⟩ | ⟨hfree, hissue⟩
    · exact .inl ⟨hworks, (hlog.taken_iff _ _).1 htaken, rfl, hlog⟩
    · refine .inr ⟨hworks, fun htaken => hfree ((hlog.taken_iff _ _).2 htaken), ?_⟩
      obtain ⟨rfl, rfl⟩ := Prod.mk.inj hissue
      refine ⟨?_, (hlog.putRecord _ _).addChangeSet _⟩
      show Except.ok (ChangeSetHandle.mk _ (some (changeSetArn _ _ (log.issued + 1)))) = _
      rw [hlog.issued]
      rfl

theorem updateStack_law {answer : CloudAnswer ChangeSetHandle}
    (hrun : updateStack r c = (answer, c')) :
    (∃ detail, c.failures.lookup .updateStack = some detail ∧ answer = .error (.api detail) ∧
      SameStore c c') ∨
      (c.failures.lookup .updateStack = none ∧ c.Taken (r.region, r.stackName) r.changeSetName ∧
        answer = .error (alreadyExists r.changeSetName) ∧ SameStore c c') ∨
      (c.failures.lookup .updateStack = none ∧ ¬ c.Taken (r.region, r.stackName) r.changeSetName ∧
        c.stack? (r.region, r.stackName) = none ∧ answer = .error (missingStack r.stackName) ∧
        SameStore c c') ∨
      (∃ s, c.failures.lookup .updateStack = none ∧
        ¬ c.Taken (r.region, r.stackName) r.changeSetName ∧
        c.stack? (r.region, r.stackName) = some s ∧
        answer = .ok ⟨r.changeSetName,
          some (changeSetArn r.region r.changeSetName (c.issued + 1))⟩ ∧
        SameStore (c.addChangeSet (updateRecord r s)).2 c') := by
  obtain ⟨log, hlog, ⟨detail, hfails, rfl, rfl⟩ | ⟨hworks, hact⟩⟩ := perform_cases hrun
  · exact .inl ⟨detail, hfails, rfl, hlog⟩
  · refine .inr ?_
    rcases unlessTaken_cases hact with ⟨htaken, rfl, rfl⟩ | ⟨hfree, hissue⟩
    · exact .inl ⟨hworks, (hlog.taken_iff _ _).1 htaken, rfl, hlog⟩
    · refine .inr ?_
      have hfree' : ¬ c.Taken (r.region, r.stackName) r.changeSetName :=
        fun htaken => hfree ((hlog.taken_iff _ _).2 htaken)
      rw [hlog.stack?] at hissue
      cases hstack : c.stack? (r.region, r.stackName) with
      | none =>
        rw [hstack] at hissue
        obtain ⟨rfl, rfl⟩ := Prod.mk.inj hissue
        exact .inl ⟨hworks, hfree', rfl, rfl, hlog⟩
      | some s =>
        rw [hstack] at hissue
        obtain ⟨rfl, rfl⟩ := Prod.mk.inj hissue
        refine .inr ⟨s, hworks, hfree', rfl, ?_, hlog.addChangeSet _⟩
        show Except.ok (ChangeSetHandle.mk (updateRecord r s).name
          (some (changeSetArn (updateRecord r s).region (updateRecord r s).name
            (log.issued + 1)))) = _
        rw [hlog.issued, updateRecord_region, updateRecord_name]

theorem deleteStack_law {answer : CloudAnswer Unit}
    (hrun : deleteStack region name c = (answer, c')) :
    ((∃ e, answer = .error e) ∧ SameStore c c') ∨
      (answer = .ok () ∧ SameStore (c.eraseStack (region, name)) c') := by
  obtain ⟨log, hlog, ⟨detail, -, rfl, rfl⟩ | ⟨-, hact⟩⟩ := perform_cases hrun
  · exact .inl ⟨⟨_, rfl⟩, hlog⟩
  · obtain ⟨rfl, rfl⟩ := Prod.mk.inj hact
    exact .inr ⟨rfl, hlog.eraseStack _⟩

def rolledBack (s : StackRecord) : StackRecord :=
  { s with status := "UPDATE_ROLLBACK_COMPLETE", reason := none }

theorem continueUpdateRollback_law {answer : CloudAnswer Unit}
    (hrun : continueUpdateRollback region name c = (answer, c')) :
    ((∃ e, answer = .error e) ∧ SameStore c c') ∨
      (∃ s, c.stack? (region, name) = some s ∧ answer = .ok () ∧
        SameStore (c.putRecord (region, name) (rolledBack s)) c') := by
  obtain ⟨log, hlog, ⟨detail, -, rfl, rfl⟩ | ⟨-, hact⟩⟩ := perform_cases hrun
  · exact .inl ⟨⟨_, rfl⟩, hlog⟩
  · rw [hlog.stack?] at hact
    cases hstack : c.stack? (region, name) with
    | none =>
      rw [hstack] at hact
      obtain ⟨rfl, rfl⟩ := Prod.mk.inj hact
      exact .inl ⟨⟨_, rfl⟩, hlog⟩
    | some s =>
      rw [hstack] at hact
      obtain ⟨rfl, rfl⟩ := Prod.mk.inj hact
      exact .inr ⟨s, rfl, rfl, hlog.putRecord _ _⟩

theorem executeChangeSet_law {answer : CloudAnswer Unit}
    (hrun : executeChangeSet region name h c = (answer, c')) :
    ((∃ e, answer = .error e) ∧ SameStore c c') ∨
      (∃ id s, c.find? (region, name) h = some (id, s) ∧ s.executionStatus = some "AVAILABLE" ∧
        answer = .ok () ∧ SameStore (c.execute (region, name) id s) c') := by
  obtain ⟨log, hlog, ⟨detail, -, rfl, rfl⟩ | ⟨-, hact⟩⟩ := perform_cases hrun
  · exact .inl ⟨⟨_, rfl⟩, hlog⟩
  · have hfind : ((log.idOf? (region, name) h).bind fun id => (log.changeSet? id).map (id, ·)) =
        c.find? (region, name) h := hlog.find? _ _
    dsimp only at hact
    rw [hfind] at hact
    cases hfound : c.find? (region, name) h with
    | none =>
      rw [hfound] at hact
      obtain ⟨rfl, rfl⟩ := Prod.mk.inj hact
      exact .inl ⟨⟨_, rfl⟩, hlog⟩
    | some found =>
      obtain ⟨id, s⟩ := found
      rw [hfound] at hact
      dsimp only at hact
      split at hact
      · obtain ⟨rfl, rfl⟩ := Prod.mk.inj hact
        exact .inl ⟨⟨_, rfl⟩, hlog⟩
      · next havailable =>
        obtain ⟨rfl, rfl⟩ := Prod.mk.inj hact
        exact .inr ⟨id, s, rfl, Decidable.not_not.1 havailable, rfl, hlog.execute _ id s⟩

theorem deleteChangeSet_law {answer : CloudAnswer Unit}
    (hrun : deleteChangeSet region name h c = (answer, c')) :
    ((∃ e, answer = .error e) ∧ SameStore c c') ∨
      (answer = .ok () ∧ ((c.idOf? (region, name) h = none ∧ SameStore c c') ∨
        ∃ id, c.idOf? (region, name) h = some id ∧ SameStore (c.eraseChangeSet id) c')) := by
  obtain ⟨log, hlog, ⟨detail, -, rfl, rfl⟩ | ⟨-, hact⟩⟩ := perform_cases hrun
  · exact .inl ⟨⟨_, rfl⟩, hlog⟩
  · obtain ⟨rfl, rfl⟩ := Prod.mk.inj hact
    refine .inr ⟨rfl, ?_⟩
    rw [hlog.idOf?]
    cases c.idOf? (region, name) h with
    | none => exact .inl ⟨rfl, hlog⟩
    | some id =>
      exact .inr ⟨id, rfl, hlog.eraseChangeSet id⟩

end MemoryCloud

end StackSync

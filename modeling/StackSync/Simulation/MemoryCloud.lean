import StackSync.Cloud.Basic

/-!
# A cloud in memory

The service as far as this library uses it, for rehearsals and for reasoning. It is cooperative: a change set
is available at once, executing it completes the stack, and an update to the template that is deployed already
is refused as empty. Every call is recorded; an operation can be made to fail, and then nothing else happens.
-/

namespace StackSync

structure LoggedCall where
  op : CloudOperation
  stack : String
  changeSet : Option String
  deriving DecidableEq, Repr, Inhabited

/-- A stack that is remembered by region and name. -/
structure StackRecord where
  status : String
  reason : Option String
  /-- What was deployed last, if it is known. -/
  template : Option TemplateSource
  deriving DecidableEq, Repr, Inhabited

structure ChangeSetRecord where
  region : String
  stack : String
  name : String
  status : String
  executionStatus : Option String
  reason : Option String
  isCreate : Bool
  template : Option TemplateSource
  deriving DecidableEq, Repr, Inhabited

abbrev StackKey := String × String

def ChangeSetRecord.belongsTo (c : ChangeSetRecord) (key : StackKey) : Bool := (c.region, c.stack) == key

structure MemoryCloud where
  records : List (StackKey × StackRecord)
  /-- By ARN, in the order they were made. -/
  changeSets : List (String × ChangeSetRecord)
  failures : List (CloudOperation × String)
  calls : List LoggedCall
  issued : Nat
  deriving DecidableEq, Repr, Inhabited

/-- An operation of the cloud: its result, and the cloud after it. -/
abbrev CloudAction (α : Type) := MemoryCloud → CloudAnswer α × MemoryCloud

namespace MemoryCloud

def empty : MemoryCloud := ⟨[], [], [], [], 0⟩

def stack? (c : MemoryCloud) (key : StackKey) : Option StackRecord := c.records.lookup key

def changeSet? (c : MemoryCloud) (id : String) : Option ChangeSetRecord := c.changeSets.lookup id

def putRecord (c : MemoryCloud) (key : StackKey) (s : StackRecord) : MemoryCloud :=
  { c with records := (key, s) :: c.records.filter (·.1 ≠ key) }

def eraseStack (c : MemoryCloud) (key : StackKey) : MemoryCloud :=
  { c with
    records := c.records.filter (·.1 ≠ key)
    changeSets := c.changeSets.filter fun (_, s) => !s.belongsTo key }

def updateChangeSet (c : MemoryCloud) (id : String) (f : ChangeSetRecord → ChangeSetRecord) : MemoryCloud :=
  { c with changeSets := c.changeSets.map fun (i, s) => if i = id then (i, f s) else (i, s) }

def eraseChangeSet (c : MemoryCloud) (id : String) : MemoryCloud :=
  { c with changeSets := c.changeSets.filter (·.1 ≠ id) }

def changeSetsOf (c : MemoryCloud) (key : StackKey) : List (String × ChangeSetRecord) :=
  c.changeSets.filter fun (_, s) => s.belongsTo key

/-- The ARN of the change set a handle refers to: its own, whatever stack that belongs to, or that of the
change set of the stack with the handle's name. -/
def idOf? (c : MemoryCloud) (key : StackKey) (h : ChangeSetHandle) : Option String :=
  match h.id with
  | some id => if (c.changeSet? id).isSome then some id else none
  | none => (c.changeSets.find? fun (_, s) => s.belongsTo key && s.name == h.name).map (·.1)

def changeSetArn (region name : String) (n : Nat) : String :=
  "arn:aws:cloudformation:" ++ region ++ ":123456789012:changeSet/" ++ name ++ "/" ++ toString n

def stackArn (region name : String) : String :=
  "arn:aws:cloudformation:" ++ region ++ ":123456789012:stack/" ++ name ++ "/1"

def addChangeSet (c : MemoryCloud) (s : ChangeSetRecord) : ChangeSetHandle × MemoryCloud :=
  let id := changeSetArn s.region s.name (c.issued + 1)
  (⟨s.name, some id⟩, { c with changeSets := c.changeSets ++ [(id, s)], issued := c.issued + 1 })

/-! ## Operations -/

/-- Records a call, and lets it happen unless the operation is made to fail. -/
def perform (op : CloudOperation) (stack : String) (changeSet : Option String) (act : CloudAction α) :
    CloudAction α := fun c =>
  let c := { c with calls := c.calls ++ [⟨op, stack, changeSet⟩] }
  match c.failures.lookup op with
  | some detail => (.error (.api detail), c)
  | none => act c

def describeStack (region name : String) : CloudAction (Option StackDescription) :=
  perform .describeStack name none fun c =>
    (.ok ((c.stack? (region, name)).map fun s =>
      ⟨name, some (stackArn region name), s.status, s.reason⟩), c)

def missingStack (name : String) : CloudError :=
  .api ("ValidationError: Stack [" ++ name ++ "] does not exist")

def noChangesReason : String :=
  "The submitted information didn't contain changes. Submit different information to create a change set."

def recordOf (r : ChangeSetRequest) (isCreate : Bool) : ChangeSetRecord where
  region := r.region
  stack := r.stackName
  name := r.changeSetName
  status := "CREATE_COMPLETE"
  executionStatus := some "AVAILABLE"
  reason := none
  isCreate := isCreate
  template := some r.template

def emptyRecordOf (r : ChangeSetRequest) : ChangeSetRecord :=
  { recordOf r false with
    status := "FAILED"
    executionStatus := some "UNAVAILABLE"
    reason := some noChangesReason }

/-- What creating a stack leaves before its change set is executed. -/
def reservedStack : StackRecord := ⟨"REVIEW_IN_PROGRESS", none, none⟩

def issue (c : MemoryCloud) (s : ChangeSetRecord) : CloudAnswer ChangeSetHandle × MemoryCloud :=
  let (handle, c) := c.addChangeSet s
  (.ok handle, c)

/-- Refuses a name that the stack has a change set of. -/
def unlessTaken (r : ChangeSetRequest) (act : CloudAction ChangeSetHandle) : CloudAction ChangeSetHandle :=
  fun c =>
    if (c.changeSetsOf (r.region, r.stackName)).any fun (_, s) => s.name == r.changeSetName then
      (.error (.api ("AlreadyExistsException: ChangeSet " ++ r.changeSetName ++ " already exists")), c)
    else act c

def createStack (r : ChangeSetRequest) : CloudAction ChangeSetHandle :=
  perform .createStack r.stackName (some r.changeSetName) <| unlessTaken r fun c =>
    (c.putRecord (r.region, r.stackName) reservedStack).issue (recordOf r true)

def updateStack (r : ChangeSetRequest) : CloudAction ChangeSetHandle :=
  perform .updateStack r.stackName (some r.changeSetName) <| unlessTaken r fun c =>
    match c.stack? (r.region, r.stackName) with
    | none => (.error (missingStack r.stackName), c)
    | some s =>
      c.issue (if s.template = some r.template then emptyRecordOf r else recordOf r false)

def deleteStack (region name : String) : CloudAction Unit :=
  perform .deleteStack name none fun c => (.ok (), c.eraseStack (region, name))

def continueUpdateRollback (region name : String) : CloudAction Unit :=
  perform .continueUpdateRollback name none fun c =>
    match c.stack? (region, name) with
    | none => (.error (missingStack name), c)
    | some s =>
      (.ok (), c.putRecord (region, name) { s with status := "UPDATE_ROLLBACK_COMPLETE", reason := none })

def describeChangeSet (region name : String) (h : ChangeSetHandle) :
    CloudAction (Option ChangeSetDescription) :=
  perform .describeChangeSet name (some h.reference) fun c =>
    (.ok do
      let id ← c.idOf? (region, name) h
      let s ← c.changeSet? id
      return ⟨⟨s.name, some id⟩, s.status, s.executionStatus, s.reason, []⟩, c)

def deployed (s : ChangeSetRecord) : StackRecord :=
  ⟨if s.isCreate then "CREATE_COMPLETE" else "UPDATE_COMPLETE", none, s.template⟩

def executeChangeSet (region name : String) (h : ChangeSetHandle) : CloudAction Unit :=
  perform .executeChangeSet name (some h.reference) fun c =>
    match (c.idOf? (region, name) h).bind fun id => (c.changeSet? id).map (id, ·) with
    | none =>
      (.error (.api
        ("ChangeSetNotFoundException: ChangeSet [" ++ h.reference ++ "] does not exist")), c)
    | some (id, s) =>
      if s.executionStatus ≠ some "AVAILABLE" then
        (.error (.api ("InvalidChangeSetStatus: change set " ++ s.name ++
          " cannot be executed in its current status")), c)
      else
        let c := c.updateChangeSet id ({ · with executionStatus := some "EXECUTE_COMPLETE" })
        (.ok (), if (c.stack? (region, name)).isSome then c.putRecord (region, name) (deployed s) else c)

def deleteChangeSet (region name : String) (h : ChangeSetHandle) : CloudAction Unit :=
  perform .deleteChangeSet name (some h.reference) fun c =>
    (.ok (), match c.idOf? (region, name) h with
      | some id => c.eraseChangeSet id
      | none => c)

/-! ## Seeding and watching -/

def seedStack (c : MemoryCloud) (key : StackKey) (status : String) (reason : Option String) : MemoryCloud :=
  c.putRecord key ⟨status, reason, (c.stack? key).bind (·.template)⟩

/-- Says what a stack, if there is one, was deployed with. -/
def seedTemplate (c : MemoryCloud) (key : StackKey) (template : TemplateSource) : MemoryCloud :=
  match c.stack? key with
  | none => c
  | some s => c.putRecord key { s with template := some template }

def seedChangeSet (c : MemoryCloud) (key : StackKey) (name status : String)
    (executionStatus reason : Option String) : ChangeSetHandle × MemoryCloud :=
  c.addChangeSet ⟨key.1, key.2, name, status, executionStatus, reason, false, none⟩

def setStatus (c : MemoryCloud) (key : StackKey) (h : ChangeSetHandle) (status : String)
    (executionStatus reason : Option String) : MemoryCloud :=
  match c.idOf? key h with
  | none => c
  | some id => c.updateChangeSet id ({ · with status, executionStatus, reason })

def breakOperation (c : MemoryCloud) (op : CloudOperation) (detail : String) : MemoryCloud :=
  { c with failures := (op, detail) :: c.failures.filter (·.1 ≠ op) }

def heal (c : MemoryCloud) : MemoryCloud := { c with failures := [] }

def countOf (c : MemoryCloud) (op : CloudOperation) : Nat := (c.calls.filter (·.op == op)).length

def writes (c : MemoryCloud) : List LoggedCall := c.calls.filter (·.op.isWrite)

end MemoryCloud

/-- Uploaded templates by their address. -/
structure MemoryTemplates where
  objects : List (String × String)
  /-- Why every upload fails, if it does. -/
  failure : Option String
  deriving DecidableEq, Repr, Inhabited

namespace MemoryTemplates

def empty : MemoryTemplates := ⟨[], none⟩

def get? (t : MemoryTemplates) (url : String) : Option String := t.objects.lookup url

def upload (t : MemoryTemplates) (bucket region key body : String) : CloudAnswer String × MemoryTemplates :=
  match t.failure with
  | some detail => (.error (.upload detail), t)
  | none =>
    let url := objectUrl bucket region key
    (.ok url, { t with objects := (url, body) :: t.objects.filter (·.1 ≠ url) })

end MemoryTemplates

end StackSync

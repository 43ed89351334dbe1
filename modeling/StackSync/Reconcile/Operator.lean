import StackSync.Artifact.Download
import StackSync.Reconcile.ChangeSetMove
import StackSync.Reconcile.Gate
import StackSync.Reconcile.Lifecycle
import StackSync.Reconcile.Round
import StackSync.Reconcile.StackMove
import StackSync.Reconcile.TargetStack

/-!
# One round over a stack

`reconcile` decides by the lifecycle what a round is for. An active stack goes through its dependencies, its
source and template, the state of the stack and that of the change set, and each of them may end the round. At
most one call that changes anything is made; the next round sees its effect and goes on from there.
-/

namespace StackSync

/-- What a round needs besides the object: the settings and a place to unpack archives in. -/
structure Operator where
  settings : OperatorSettings
  download : DownloadSettings
  workspace : Workspace

namespace Operator

/-- The end of a round, and its state for the announcement. -/
abbrev Ended := Program (Round × Outcome)

def requestChangeSet (r : Round) (t : TargetStack) (isCreate : Bool) (template : TemplateSource) : Ended := do
  let request := t.request template
  let verb := if isCreate then "create" else "update"
  let result : CloudAnswer ChangeSetHandle ←
    if isCreate then Program.request (.createStack request) else Program.request (.updateStack request)
  match result with
  | .error e => return (r, r.failByCall ("create change set to " ++ verb ++ " stack") e)
  | .ok handle =>
    let r := r.withChangeSet handle
    return (r, r.wait
      ("Created change set " ++ handle.name ++ " to " ++ verb ++ " stack " ++ t.stackName))

def oversized (size : Nat) : String :=
  "Template is " ++ toString size ++ " bytes, more than the " ++ toString inlineLimit ++
    " bytes that can be passed inline; configure a template bucket"

/-- Puts the template where the service will find it, and asks for the change set. -/
def submitTemplate (r : Round) (t : TargetStack) (isCreate : Bool) : Ended :=
  match t.bucket with
  | some bucket => do
    match ← Program.request (.uploadTemplate bucket t.region t.objectKey t.templateBody) with
    | .ok url => requestChangeSet r t isCreate (.url url)
    | .error e =>
      return (r, r.failByCloud Reason.templateUploadFailed
        ("Failed to upload template to bucket " ++ bucket ++ ": " ++ e.message))
  | none =>
    if inlineLimit < t.templateBody.utf8ByteSize then
      return (r, r.fail Reason.templateUploadFailed (oversized t.templateBody.utf8ByteSize))
    else requestChangeSet r t isCreate (.body t.templateBody)

def advanceChangeSet (r : Round) (t : TargetStack) (isCreate : Bool) : Ended := do
  match ← Program.request (.describeChangeSet t.region t.stackName t.changeSet) with
  | .error e => return (r, r.failByCall "describe change set" e)
  | .ok found =>
    let handle := (found.map (·.handle)).getD t.changeSet
    let r := if found.isSome then r.withChangeSet handle else r
    match ChangeSetMove.ofFound found with
    | .create => submitTemplate r t isCreate
    | .deleteEmpty =>
      match ← Program.request (.deleteChangeSet t.region t.stackName handle) with
      | .error e => return (r, r.failByCall "delete empty change set" e)
      | .ok () =>
        return (r, r.succeed
          ("Stack " ++ t.stackName ++ " is up to date, revision " ++ t.revision ++ " has no changes"))
    | .deleteFailed message =>
      match ← Program.request (.deleteChangeSet t.region t.stackName handle) with
      | .error e => return (r, r.failByCall "delete failed change set" e)
      | .ok () =>
        let r ← r.emit (.warning Reason.changeSetFailed message)
        return (r, r.fail Reason.changeSetFailed message)
    | .wait message => return (r, r.wait message)
    | .ready =>
      return (r, r.succeed ("Stack " ++ t.stackName ++ " is up to date with revision " ++ t.revision))
    | .execute =>
      match ← Program.request (.executeChangeSet t.region t.stackName handle) with
      | .error e => return (r, r.failByCall "execute change set" e)
      | .ok () =>
        let message := "Executing change set " ++ handle.name ++ " on stack " ++ t.stackName
        let r ← r.emit (.info Reason.progressing message)
        return (r, r.wait message)
    | .unexpected message =>
      let r ← r.emit (.warning Reason.unexpectedStatus message)
      return (r, r.failByStatus message)

def advanceStack (r : Round) (t : TargetStack) : Ended := do
  match ← Program.request (.describeStack t.region t.stackName) with
  | .error e => return (r, r.failByCall "describe stack" e)
  | .ok found =>
    match StackMove.ofFound found with
    | .changeSet isCreate false => advanceChangeSet r t isCreate
    | .changeSet isCreate true =>
      let status := (found.map (·.status)).getD ""
      let r ← r.emit (.warning Reason.progressing
        ("Stack " ++ t.stackName ++ " is in failed status " ++ status ++ ", creating a new change set"))
      advanceChangeSet r t isCreate
    | .wait message => return (r, r.wait message)
    | .continueRollback =>
      match ← Program.request (.continueRollback t.region t.stackName) with
      | .error e => return (r, r.failByCall "continue update rollback" e)
      | .ok () =>
        return (r, r.fail Reason.rollbackFailed
          ("Stack " ++ t.stackName ++ " failed to roll back an update, continuing the rollback"))
    | .deleteUnrecoverable message =>
      match ← Program.request (.deleteStack t.region t.stackName) with
      | .error e => return (r, r.failByCall "delete stack" e)
      | .ok () => return (r, r.fail Reason.unrecoverable message)
    | .unexpected message => return (r, r.failByStatus message)

def target (o : Operator) (r : Round) (revision body : String) : TargetStack :=
  .build {
    objectName := r.manifest.name
    objectNs := r.manifest.ns
    spec := r.manifest.spec
    generation := r.manifest.metadata.generation.getD 0
    revision := revision
    templateBody := body
    lastAttempted := r.current.lastAttemptedChangeSet
    defaultRegion := o.settings.defaultRegion
    bucket := o.settings.templateBucket
    defaultTags := o.settings.defaultTags }

def advanceArtifact (o : Operator) (r : Round) (artifact : Artifact) : Ended := do
  let r := r.withRevision artifact.revision
  match ← fetchTemplate o.download o.workspace artifact r.manifest.spec.templatePath with
  | .error error => return (r, r.fail Reason.artifactFailed error.message)
  | .ok body =>
    let t := o.target r artifact.revision body
    advanceStack (r.withChangeSet t.changeSet) t

def advanceSource (o : Operator) (r : Round) : Ended := do
  let source := r.manifest.spec.sourceRef
  let ns := source.ns.getD r.manifest.ns
  match ← Program.request (.findArtifact source.kind ns source.name) with
  | .error error => return (r, r.fail Reason.artifactFailed error.message)
  | .ok none =>
    return (r, r.fail Reason.artifactFailed
      ("Source " ++ sourceLabel source.kind ns source.name ++ " has no artifact yet"))
  | .ok (some artifact) => o.advanceArtifact r artifact

/-- A status that has not seen the present generation starts from progressing. -/
def observeGeneration (r : Round) : Round :=
  let generation := r.manifest.metadata.generation
  if r.current.observedGeneration = generation then r
  else
    let message := "Reconciling generation " ++ toString (generation.getD 0).toInt
    { r with current := r.current.progressing r.attempt message }

def advance (o : Operator) (r : Round) : Ended := do
  let r := observeGeneration r
  match ← dependencyGate r.manifest with
  | some blocked =>
    let r ← r.emit (.info Reason.dependencyNotReady blocked.message)
    return (r, Round.outcome
      (r.current.notReady r.attempt Reason.dependencyNotReady blocked.message)
      (some o.settings.dependencyRequeue))
  | none => o.advanceSource r

/-- A spec that cannot be read is reported once and then left until it changes. -/
def invalidSpec (m : Manifest) (time message : String) : Program Outcome := do
  let r := Round.start m .fallback time
  let outcome := Round.outcome (r.current.notReady r.attempt Reason.invalidSpec message) none
  if m.ready?.bind (·.reason) = some Reason.invalidSpec then return outcome
  else
    let _ ← r.emit (.warning Reason.invalidSpec message)
    return outcome

def keepInSync (o : Operator) (time : String) (m : Manifest) : Program Outcome :=
  match Intervals.ofSpec m.spec with
  | .error invalid => invalidSpec m time invalid.message
  | .ok intervals => do
    let (r, outcome) ← o.advance (Round.start m intervals time)
    r.close outcome

/-- The stack is gone: there is none, or it is only remembered as deleted. -/
def isGone : Option StackDescription → Bool
  | none => true
  | some s => s.status == "DELETE_COMPLETE"

def destroy (r : Round) (region : String) (s : StackDescription) : Ended := do
  let name := r.manifest.spec.stackName
  let r ← if s.status = "DELETE_FAILED" then
      r.emit (.warning Reason.unrecoverable
        ("Previous deletion of stack " ++ name ++ " failed, retrying: " ++ s.reason))
    else pure r
  match ← Program.request (.deleteStack region name) with
  | .error e => return (r, r.failByCall "delete stack" e)
  | .ok () => return (r, r.wait ("Deleting stack " ++ name))

/-- The region a deletion is addressed to; white space around it or instead of it does not count. -/
def regionOf (o : Operator) (m : Manifest) : String :=
  ((m.spec.region.map Text.trim).filter (!·.isEmpty)).getD o.settings.defaultRegion

def advanceDeletion (o : Operator) (r : Round) : Ended := do
  let name := r.manifest.spec.stackName
  let region := o.regionOf r.manifest
  match ← Program.request (.describeStack region name) with
  | .error error => return (r, r.failByCall "describe stack" error)
  | .ok none => return (r, .removeFinalizer)
  | .ok (some s) =>
    if isGone (some s) then return (r, .removeFinalizer)
    else if s.phase = .inProgress then
      return (r, r.wait
        ("Waiting for stack " ++ name ++ " to settle before deleting it (status " ++ s.status ++ ")"))
    else destroy r region s

def tearDown (o : Operator) (time : String) (m : Manifest) : Program Outcome := do
  let intervals := match Intervals.ofSpec m.spec with
    | .ok intervals => intervals
    | .error _ => .fallback
  let (r, outcome) ← o.advanceDeletion (Round.start m intervals time)
  r.close outcome

def reconcile (o : Operator) (time : String) (m : Manifest) : Program Outcome :=
  match m.lifecycleFacts.choice.duty with
  | none => return .idle
  | some .addFinalizer => return .addFinalizer
  | some .removeFinalizer => return .removeFinalizer
  | some .destroyStack => o.tearDown time m
  | some .reconcile => o.keepInSync time m

end Operator

end StackSync

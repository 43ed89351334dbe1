import StackSync.Reconcile.Outcome
import StackSync.Reconcile.Program

/-!
# The state of a round

A round carries the object, the status it builds on, what it has attempted so far, and whether it has announced
anything yet. The ways it can end are outcomes computed from that state.
-/

namespace StackSync

structure Round where
  manifest : Manifest
  current : Status
  attempt : Attempt
  intervals : Intervals
  emitted : Bool
  deriving Repr

namespace Round

def start (m : Manifest) (intervals : Intervals) (time : String) : Round where
  manifest := m
  current := m.status.getD .empty
  attempt := ⟨m.metadata.generation, some m.spec.stackName, none, none, time⟩
  intervals := intervals
  emitted := false

def withRevision (r : Round) (revision : String) : Round :=
  { r with attempt := { r.attempt with revision := some revision } }

def withChangeSet (r : Round) (handle : ChangeSetHandle) : Round :=
  { r with attempt := { r.attempt with changeSet := some handle.reference } }

def details (r : Round) (e : Event) : Event :=
  let e := match r.attempt.revision with
    | some revision => e.withDetail "revision" revision
    | none => e
  match r.attempt.changeSet with
  | some changeSet => e.withDetail "changeSet" changeSet
  | none => e

def emit (r : Round) (e : Event) : Program Round :=
  .ask (.emit (r.details e)) fun _ => .done { r with emitted := true }

def outcome (status : Status) (requeue : Option Duration) : Outcome := ⟨some status, requeue, .keep, none⟩

def wait (r : Round) (message : String) : Outcome :=
  outcome (r.current.progressing r.attempt message) (some r.intervals.poll)

def succeed (r : Round) (message : String) : Outcome :=
  outcome (r.current.ready r.attempt message) (some r.intervals.interval)

def fail (r : Round) (reason message : String) : Outcome :=
  outcome (r.current.notReady r.attempt reason message) (some r.intervals.retry)

def failByStatus (r : Round) (message : String) : Outcome :=
  { r.fail Reason.unexpectedStatus message with
    error := some (.unexpected message r.intervals.retry) }

def failByCloud (r : Round) (reason message : String) : Outcome :=
  { r.fail reason message with error := some (.cloud message r.intervals.retry) }

def failByCall (r : Round) (action : String) (e : CloudError) : Outcome :=
  r.failByCloud Reason.apiCallFailed ("Failed to " ++ action ++ ": " ++ e.message)

def announcement (c : Condition) : Event :=
  let reason := c.reason.getD ""
  let message := c.message.getD ""
  if c.status = .false then .warning reason message else .info reason message

/-- Announces the new `Ready` condition, if it differs from the object's and nothing has been announced. -/
def close (r : Round) (o : Outcome) : Program Outcome :=
  if r.emitted then return o
  else
    match o.status.bind (·.ready?) with
    | none => return o
    | some next =>
      if r.manifest.ready?.map (fun c => (c.status, c.reason)) = some (next.status, next.reason) then
        return o
      else do
        let _ ← r.emit (announcement next)
        return o

end Round

end StackSync

import StackSync.Aws.Fault
import StackSync.Aws.Message

/-!
# Answers of the service

What the service answers has every member optional. A description takes from an answer what is there and what
the caller knew already, and that something does not exist is a description too.
-/

namespace StackSync.Aws

abbrev Sent (α : Type) := Except Fault α

structure StackAnswer where
  stackId : Option String
  status : Option String
  statusReason : Option String
  deriving DecidableEq, Repr, Inhabited

/-- A change set in an answer. A change need not be a change of a resource. -/
structure ChangeSetAnswer where
  name : Option String
  id : Option String
  status : Option String
  executionStatus : Option String
  statusReason : Option String
  changes : List (Option ResourceChange)
  deriving DecidableEq, Repr, Inhabited

/-- The stack of a name: the first that the service lists. -/
def readStack (name : String) : Sent (List StackAnswer) → CloudAnswer (Option StackDescription)
  | .ok [] => .ok none
  | .ok (stack :: _) =>
    .ok (some {
      stackName := name
      stackId := stack.stackId
      status := stack.status.getD ""
      statusReason := stack.statusReason })
  | .error f => if f.isAbsence .describeStack then .ok none else .error (f.error .describeStack)

/-- The handle of a change set that has been asked for, with the ARN if the service gave one. -/
def readCreated (op : CloudOperation) (name : String) : Sent (Option String) → CloudAnswer ChangeSetHandle
  | .ok id => .ok ⟨name, id⟩
  | .error f => .error (f.error op)

def readChangeSet (h : ChangeSetHandle) : Sent ChangeSetAnswer → CloudAnswer (Option ChangeSetDescription)
  | .ok found =>
    .ok (some {
      handle := ⟨found.name.getD h.name, found.id <|> h.id⟩
      status := found.status.getD ""
      executionStatus := found.executionStatus
      statusReason := found.statusReason
      changes := found.changes.filterMap id })
  | .error f => if f.isAbsence .describeChangeSet then .ok none else .error (f.error .describeChangeSet)

/-- An operation whose answer says nothing more than that it was accepted. -/
def readAccepted (op : CloudOperation) (sent : Sent Unit) : CloudAnswer Unit := sent.mapError (·.error op)

def readUploaded (bucket region key : String) (sent : Sent Unit) : CloudAnswer String :=
  (readAccepted .uploadTemplate sent).map fun _ => objectUrl bucket region key

end StackSync.Aws

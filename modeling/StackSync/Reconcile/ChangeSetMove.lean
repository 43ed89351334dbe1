import StackSync.Cloud.Phase

/-!
# The move a change set calls for

What is done about a change set follows from its phase alone.
-/

namespace StackSync

inductive ChangeSetMove where
  | create
  /-- It would change nothing: it is removed, and the stack is up to date. -/
  | deleteEmpty
  | deleteFailed (message : String)
  | wait (message : String)
  | ready
  | execute
  | unexpected (message : String)
  deriving DecidableEq, Repr, Inhabited

namespace ChangeSetDescription

def summary (d : ChangeSetDescription) : String :=
  let statuses := "status " ++ d.status ++ ", execution status " ++
    (if d.execution.isEmpty then "unknown" else d.execution)
  if d.reason.isEmpty then statuses else statuses ++ ", reason " ++ d.reason

def move (d : ChangeSetDescription) : ChangeSetMove :=
  let about := "Change set " ++ d.handle.name
  match d.phase with
  | .notFound => .create
  | .empty => .deleteEmpty
  | .failed => .deleteFailed (about ++ " failed: " ++ d.summary)
  | .inProgress => .wait (about ++ " is in progress: " ++ d.summary)
  | .success => .ready
  | .readyForExecution => .execute
  | .unclassified => .unexpected (about ++ " is in an unexpected state: " ++ d.summary)

end ChangeSetDescription

/-- A change set that does not exist is created. -/
def ChangeSetMove.ofFound : Option ChangeSetDescription → ChangeSetMove
  | none => .create
  | some d => d.move

end StackSync

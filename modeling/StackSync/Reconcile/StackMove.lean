import StackSync.Cloud.Phase

/-!
# The move a stack calls for

What is done about a stack follows from its phase alone; the texts quote its name, its status and, for the
two steps that somebody has to look into, the reason the service gives.
-/

namespace StackSync

inductive StackMove where
  /-- Go on to the change set. -/
  | changeSet (isCreate recovering : Bool)
  | wait (message : String)
  | continueRollback
  | deleteUnrecoverable (message : String)
  | unexpected (message : String)
  deriving DecidableEq, Repr, Inhabited

namespace StackDescription

def withReason (s : StackDescription) (text : String) : String :=
  if s.reason.isEmpty then text else text ++ ": " ++ s.reason

def move (s : StackDescription) : StackMove :=
  match s.phase with
  | .notCreated => .changeSet true false
  | .inProgress =>
    .wait ("Stack " ++ s.stackName ++ " is in progress (status " ++ s.status ++ ")")
  | .rollbackContinuationNeeded => .continueRollback
  | .unrecoverableFailure =>
    .deleteUnrecoverable (s.withReason
      ("Stack " ++ s.stackName ++ " is in unrecoverable status " ++ s.status ++ ", deleting it"))
  | .success => .changeSet false false
  | .recoverableFailure => .changeSet false true
  | .unclassified =>
    .unexpected (s.withReason
      ("Stack " ++ s.stackName ++ " has unexpected status " ++ s.status))

end StackDescription

/-- A stack that does not exist is created. -/
def StackMove.ofFound : Option StackDescription → StackMove
  | none => .changeSet true false
  | some s => s.move

end StackSync

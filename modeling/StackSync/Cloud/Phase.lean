import StackSync.Cloud.Basic

/-!
# Phases

The many statuses of the service fall into a few phases, and every decision is made on the phase. A status
that no rule covers is `unclassified`, which is reported and never acted on.
-/

namespace StackSync

inductive StackPhase where
  /-- Nothing is deployed: the stack is only reserved for a first change set, or it is deleted. -/
  | notCreated
  | inProgress
  | success
  /-- An update failed and was undone: a new change set may be tried. -/
  | recoverableFailure
  /-- Only deleting the stack helps. -/
  | unrecoverableFailure
  /-- The rollback of an update got stuck and has to be continued. -/
  | rollbackContinuationNeeded
  | unclassified
  deriving DecidableEq, Repr, Inhabited

/-- What every transitional status of a stack ends with. -/
def transitionalEnding : String := "_IN_PROGRESS"

def StackPhase.ofStatus (status : String) : StackPhase :=
  match status with
  | "REVIEW_IN_PROGRESS" | "DELETE_COMPLETE" => .notCreated
  | "CREATE_COMPLETE" | "UPDATE_COMPLETE" | "IMPORT_COMPLETE" => .success
  | "UPDATE_ROLLBACK_COMPLETE" | "IMPORT_ROLLBACK_COMPLETE" | "UPDATE_FAILED" =>
    .recoverableFailure
  | "UPDATE_ROLLBACK_FAILED" => .rollbackContinuationNeeded
  | "CREATE_FAILED" | "ROLLBACK_COMPLETE" | "ROLLBACK_FAILED" | "DELETE_FAILED"
  | "IMPORT_ROLLBACK_FAILED" => .unrecoverableFailure
  | _ =>
    if transitionalEnding.toList.isSuffixOf status.toList then .inProgress else .unclassified

def StackDescription.phase (s : StackDescription) : StackPhase := .ofStatus s.status

inductive ChangeSetPhase where
  | notFound
  /-- The service refused to make it, because the template changes nothing. -/
  | empty
  | inProgress
  | failed
  /-- It has been executed. -/
  | success
  | readyForExecution
  | unclassified
  deriving DecidableEq, Repr, Inhabited

/-- What the service says of a change set that would change nothing. -/
def noChangesPhrases : List String :=
  ["didn't contain changes", "No updates are to be performed"]

namespace ChangeSetDescription

def isEmptyFailure (d : ChangeSetDescription) : Bool :=
  d.status == "FAILED" && noChangesPhrases.any fun r => Text.occursIn r d.reason

def isTransitional (d : ChangeSetDescription) : Bool :=
  ["CREATE_PENDING", "CREATE_IN_PROGRESS", "DELETE_PENDING", "DELETE_IN_PROGRESS"].contains
      d.status || d.execution == "EXECUTE_IN_PROGRESS"

def isFailure (d : ChangeSetDescription) : Bool :=
  ["FAILED", "DELETE_FAILED"].contains d.status ||
    ["EXECUTE_FAILED", "OBSOLETE"].contains d.execution

/-- The rules are tried in this order: the first that applies decides. -/
def phase (d : ChangeSetDescription) : ChangeSetPhase :=
  if d.status = "DELETE_COMPLETE" then .notFound
  else if d.isEmptyFailure then .empty
  else if d.isTransitional then .inProgress
  else if d.isFailure then .failed
  else if d.status = "CREATE_COMPLETE" ∧ d.execution = "EXECUTE_COMPLETE" then .success
  else if d.status = "CREATE_COMPLETE" ∧ d.execution = "AVAILABLE" then .readyForExecution
  else .unclassified

end ChangeSetDescription

def ChangeSetPhase.ofFound : Option ChangeSetDescription → ChangeSetPhase
  | none => .notFound
  | some d => d.phase

end StackSync

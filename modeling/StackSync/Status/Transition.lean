import StackSync.Status.Merge

/-!
# Status transitions

A round moves the status in one of three ways: towards ready, to ready, or to a failure with a reason. Each
writes the attempt and the `Ready` condition; only `ready` moves what was last applied.
-/

namespace StackSync

namespace Reason

def progressing : String := "Progressing"
def succeeded : String := "Succeeded"
def artifactFailed : String := "ArtifactFailed"
def templateUploadFailed : String := "TemplateUploadFailed"
def apiCallFailed : String := "CloudFormationApiCallFailed"
def changeSetFailed : String := "ChangeSetFailed"
def rollbackFailed : String := "StackRollbackFailed"
def unrecoverable : String := "UnrecoverableStackFailure"
def dependencyNotReady : String := "DependencyNotReady"
def unexpectedStatus : String := "UnexpectedStatus"
def invalidSpec : String := "InvalidSpec"

end Reason

/-- What a round tries, as far as it has got. -/
structure Attempt where
  generation : Option Int64
  stackName : Option String
  revision : Option String
  changeSet : Option String
  time : String
  deriving DecidableEq, Repr, Inhabited

namespace Status

/-- Records the attempt; a generation never goes back, and an absent field keeps the old one. -/
def record (s : Status) (a : Attempt) : Status :=
  { s with
    observedGeneration :=
      if generationBefore s.observedGeneration a.generation then a.generation
      else s.observedGeneration
    stackName := a.stackName <|> s.stackName
    lastAttemptedRevision := a.revision <|> s.lastAttemptedRevision
    lastAttemptedChangeSet := a.changeSet <|> s.lastAttemptedChangeSet }

def newReady (a : Attempt) (status : ConditionStatus) (reason message : String) : Condition where
  type := readyType
  status := status
  reason := some reason
  message := some message
  observedGeneration := a.generation
  lastTransitionTime := some a.time

def apply (s : Status) (a : Attempt) (status : ConditionStatus) (reason message : String) : Status :=
  { s.record a with
    conditions := putConditions s.conditions [newReady a status reason message] }

def progressing (s : Status) (a : Attempt) (message : String) : Status :=
  s.apply a .unknown Reason.progressing message

def notReady (s : Status) (a : Attempt) (reason message : String) : Status :=
  s.apply a .false reason message

/-- What was attempted is now what is applied. -/
def ready (s : Status) (a : Attempt) (message : String) : Status :=
  let next := s.apply a .true Reason.succeeded message
  { next with
    lastAppliedRevision := next.lastAttemptedRevision
    lastAppliedChangeSet := next.lastAttemptedChangeSet }

end Status

end StackSync

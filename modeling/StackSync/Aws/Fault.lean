import StackSync.Cloud.Basic
import StackSync.Text.Causes
import StackSync.Text.Cut
import StackSync.Text.Quoted

/-!
# Faults of a call

A call fails because the service says so, with a message and mostly a code, or because the service was not
reached. Some codes of an operation are known exceptions and speak for themselves; any other is passed on as it
came. A fault is told as the chain of its causes. Operations that ask name the service's error alone, and those
that act say first that it is one.
-/

namespace StackSync.Aws

structure ServiceError where
  code : Option String
  message : String
  deriving DecidableEq, Repr, Inhabited

inductive Fault where
  | service (e : ServiceError)
  | unreachable (detail : String)
  deriving DecidableEq, Repr, Inhabited

def changeSetNotFound : String := "ChangeSetNotFound"

/-- The codes that are known exceptions of an operation, with the names of these. -/
def exceptions : CloudOperation → List (String × String)
  | .createStack | .updateStack => [
      ("AlreadyExistsException", "AlreadyExistsException"),
      ("InsufficientCapabilitiesException", "InsufficientCapabilitiesException"),
      ("LimitExceededException", "LimitExceededException")]
  | .deleteStack | .continueUpdateRollback => [
      ("TokenAlreadyExistsException", "TokenAlreadyExistsException")]
  | .describeChangeSet => [(changeSetNotFound, "ChangeSetNotFoundException")]
  | .executeChangeSet => [
      (changeSetNotFound, "ChangeSetNotFoundException"),
      ("InsufficientCapabilitiesException", "InsufficientCapabilitiesException"),
      ("InvalidChangeSetStatus", "InvalidChangeSetStatusException"),
      ("TokenAlreadyExistsException", "TokenAlreadyExistsException")]
  | .deleteChangeSet => [("InvalidChangeSetStatus", "InvalidChangeSetStatusException")]
  | .uploadTemplate => [
      ("EncryptionTypeMismatch", "EncryptionTypeMismatch"), ("InvalidRequest", "InvalidRequest"),
      ("InvalidWriteOffset", "InvalidWriteOffset"), ("TooManyParts", "TooManyParts")]
  | .describeStack => []

namespace ServiceError

/-- An error whose code says nothing to this program, with all there is to it. -/
def described (e : ServiceError) : String :=
  let code := match e.code with
    | some code => "code: " ++ Text.quoted code ++ ", "
    | none => ""
  "Error \x7b " ++ code ++ "message: " ++ Text.quoted e.message ++ " \x7d"

def chain (op : CloudOperation) (e : ServiceError) : List String :=
  match e.code with
  | none => ["unhandled error", e.described]
  | some code =>
    match (exceptions op).lookup code with
    | some exception => [exception ++ ": " ++ e.message]
    | none => ["unhandled error (" ++ code ++ ")", e.described]

/-- The service says of a stack that there is none by the text of the message only. -/
def saysNoStack (e : ServiceError) : Bool :=
  e.code == some "ValidationError" && Text.occursIn "does not exist" e.message

end ServiceError

namespace Fault

/-- Whether the caller cares for what the service answers, or only for whether it did. -/
def asks (op : CloudOperation) : Bool := op = .describeStack ∨ op = .describeChangeSet ∨ op = .uploadTemplate

def chain (op : CloudOperation) : Fault → List String
  | .service e => if asks op then e.chain op else "service error" :: e.chain op
  | .unreachable detail =>
    let causes := ["dispatch failure", "io error", detail]
    if asks op then "unhandled error" :: causes else causes

def text (op : CloudOperation) (f : Fault) : String :=
  match f.chain op with
  | outermost :: causes => Text.joinCauses outermost causes
  | [] => ""

def error (op : CloudOperation) (f : Fault) : CloudError :=
  match op with
  | .uploadTemplate => .upload (f.text op)
  | _ => .api (f.text op)

/-- The fault says that what was asked for does not exist. -/
def isAbsence (op : CloudOperation) : Fault → Bool
  | .service e => e.saysNoStack || (op = .describeChangeSet && e.code == some changeSetNotFound)
  | .unreachable _ => false

end Fault

end StackSync.Aws

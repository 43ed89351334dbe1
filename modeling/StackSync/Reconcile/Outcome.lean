import StackSync.Duration
import StackSync.Reconcile.Intervals
import StackSync.Status.Transition

/-!
# What a round comes to

A round changes nothing about the object itself. It says which status to write, what to do about the finalizer,
when to come back, and with which error, if any, it is reported.
-/

namespace StackSync

inductive FinalizerEdit where
  | keep
  | add
  | remove
  deriving DecidableEq, Repr, Inhabited

inductive ReconcileError where
  | kubernetes (detail : String)
  | cloud (detail : String) (requeue : Duration)
  | unexpected (detail : String) (requeue : Duration)
  | spec (detail : String)
  deriving DecidableEq, Repr

namespace ReconcileError

def message : ReconcileError → String
  | .kubernetes detail => "kubernetes API error: " ++ detail
  | .cloud detail _ => detail
  | .unexpected detail _ => detail
  | .spec detail => "invalid object: " ++ detail

/-- When to try again; an object that is wrong itself has to change first. -/
def requeue : ReconcileError → Option Duration
  | .kubernetes _ => some Intervals.defaultRetry
  | .cloud _ delay => some delay
  | .unexpected _ delay => some delay
  | .spec _ => none

end ReconcileError

structure Outcome where
  status : Option Status
  /-- When to come back; without a delay the next change to the object is waited for. -/
  requeue : Option Duration
  finalizer : FinalizerEdit
  error : Option ReconcileError
  deriving DecidableEq, Repr, Inhabited

namespace Outcome

def idle : Outcome := ⟨none, none, .keep, none⟩

def addFinalizer : Outcome := { idle with finalizer := .add }

def removeFinalizer : Outcome := { idle with finalizer := .remove }

end Outcome

end StackSync

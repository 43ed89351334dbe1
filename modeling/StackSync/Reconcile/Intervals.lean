import StackSync.Duration
import StackSync.Resource.Basic

/-!
# Intervals

A spec gives one interval for stacks that are ready and may give two more: for polling while something is in
progress and for trying again after a failure.
-/

namespace StackSync

structure Intervals where
  interval : Duration
  poll : Duration
  retry : Duration
  deriving DecidableEq, Repr, Inhabited

/-- A field of a spec that should be a duration. -/
structure InvalidInterval where
  field : String
  text : String
  deriving DecidableEq, Repr

def InvalidInterval.message (e : InvalidInterval) : String :=
  "invalid " ++ e.field ++ " '" ++ e.text ++ "'"

namespace Intervals

def defaultPoll : Duration := .ofSeconds 5

def defaultRetry : Duration := .ofSeconds 60

/-- For an object whose own intervals cannot be read but that still has to be dealt with. -/
def fallback : Intervals := ⟨defaultRetry, defaultPoll, defaultRetry⟩

def read (field text : String) : Except InvalidInterval Duration :=
  match Duration.parse? text with
  | some d => .ok d
  | none => .error ⟨field, text⟩

def readOr (default : Duration) (field : String) : Option String → Except InvalidInterval Duration
  | none => .ok default
  | some text => read field text

def ofSpec (spec : Spec) : Except InvalidInterval Intervals := do
  let interval ← read "interval" spec.interval
  let poll ← readOr defaultPoll "pollInterval" spec.pollInterval
  let retry ← readOr defaultRetry "retryInterval" spec.retryInterval
  return { interval, poll, retry }

end Intervals

end StackSync

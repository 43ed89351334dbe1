import StackSync.Reconcile.Program

/-!
# The dependency gate

A stack waits for the stacks it depends on. One of them is ready if its status has been computed for its
present generation and its `Ready` condition is true; the first that is not, in the order of declaration,
closes the gate.
-/

namespace StackSync

/-- Why a dependency is not ready. -/
inductive NotReady where
  | itself
  | missing
  | lookupFailed (detail : String)
  | noConditions
  | outdated (observed actual : Int64)
  | notTrue (message : Option String)
  | noReadyCondition
  deriving DecidableEq, Repr

def NotReady.message : NotReady → String
  | .itself => "a stack cannot depend on itself"
  | .missing => "not found"
  | .lookupFailed detail => "lookup failed: " ++ detail
  | .noConditions => "has no status conditions yet"
  | .outdated observed actual =>
    "observed generation " ++ toString observed.toInt ++ " does not match generation " ++
      toString actual.toInt
  | .notTrue message => "is not Ready: " ++ message.getD "no message"
  | .noReadyCondition => "has no Ready condition"

/-- Why a stack is not ready for others, if it is not. -/
def Manifest.notReady? (m : Manifest) : Option NotReady :=
  match m.status.filter (!·.conditions.isEmpty) with
  | none => some .noConditions
  | some status =>
    if status.observedGeneration ≠ m.metadata.generation then
      some (.outdated (status.observedGeneration.getD 0) (m.metadata.generation.getD 0))
    else
      match status.ready? with
      | none => some .noReadyCondition
      | some c => if c.isTrue then none else some (.notTrue c.message)

structure Blocked where
  ns : String
  name : String
  cause : NotReady
  deriving DecidableEq, Repr

namespace Blocked

def dependency (b : Blocked) : String := b.ns ++ "/" ++ b.name

def message (b : Blocked) : String :=
  "dependency '" ++ b.dependency ++ "' is not ready: " ++ b.cause.message

end Blocked

/-- Why one dependency is not ready, if it is not. A stack never waits for itself. -/
def whyBlocked (m : Manifest) (ns name : String) : Program (Option NotReady) :=
  if ns = m.ns ∧ name = m.name then return some .itself
  else do
    match ← Program.request (.findStack ns name) with
    | .ok (some found) => return found.notReady?
    | .ok none => return some .missing
    | .error detail => return some (.lookupFailed detail)

def firstBlocked (m : Manifest) : List DependencyRef → Program (Option Blocked)
  | [] => return none
  | d :: rest => do
    let ns := d.ns.getD m.ns
    match ← whyBlocked m ns d.name with
    | some cause => return some ⟨ns, d.name, cause⟩
    | none => firstBlocked m rest

def dependencyGate (m : Manifest) : Program (Option Blocked) := firstBlocked m m.spec.dependsOn

end StackSync

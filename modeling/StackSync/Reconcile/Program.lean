import StackSync.Artifact.Basic
import StackSync.Cloud.Basic
import StackSync.Reconcile.Event
import StackSync.Url.Basic

/-!
# Programs that ask

One round over a stack talks to others: it looks up stacks and sources, downloads, calls the cloud and emits
events. `Program` is such a conversation as a value. It is done, or it asks a request and goes on from the
answer, so that nothing is assumed about who answers: `run` lets a handler with a state do it, and `Ran` holds
of every conversation there can be. `ran_run` says that the first is an instance of the second.
-/

namespace StackSync

/-- What came of one attempt to get a URL. -/
inductive Reply where
  /-- A status, and the body or why it broke off. -/
  | response (status : Nat) (body : Except String ByteArray)
  /-- No response; another attempt may help if there was no connection or no time left. -/
  | failure (isRetryable : Bool) (detail : String)

inductive Request where
  | findStack (ns name : String)
  | findArtifact (kind ns name : String)
  | download (url : Url)
  | describeStack (region stackName : String)
  | createStack (request : ChangeSetRequest)
  | updateStack (request : ChangeSetRequest)
  | deleteStack (region stackName : String)
  | continueRollback (region stackName : String)
  | describeChangeSet (region stackName : String) (handle : ChangeSetHandle)
  | executeChangeSet (region stackName : String) (handle : ChangeSetHandle)
  | deleteChangeSet (region stackName : String) (handle : ChangeSetHandle)
  | uploadTemplate (bucket region key body : String)
  | emit (event : Event)

def Request.Answer : Request → Type
  | .findStack .. => Except String (Option Manifest)
  | .findArtifact .. => Except SourceError (Option Artifact)
  | .download _ => Reply
  | .describeStack .. => CloudAnswer (Option StackDescription)
  | .createStack _ => CloudAnswer ChangeSetHandle
  | .updateStack _ => CloudAnswer ChangeSetHandle
  | .deleteStack .. => CloudAnswer Unit
  | .continueRollback .. => CloudAnswer Unit
  | .describeChangeSet .. => CloudAnswer (Option ChangeSetDescription)
  | .executeChangeSet .. => CloudAnswer Unit
  | .deleteChangeSet .. => CloudAnswer Unit
  | .uploadTemplate .. => CloudAnswer String
  | .emit _ => Unit

inductive Program (α : Type) where
  | done (result : α)
  | ask (request : Request) (next : request.Answer → Program α)

namespace Program

protected def bind : Program α → (α → Program β) → Program β
  | .done a, f => f a
  | .ask r next, f => .ask r fun answer => Program.bind (next answer) f

instance : Monad Program where
  pure := .done
  bind := Program.bind

def request (r : Request) : Program r.Answer := .ask r .done

@[simp] theorem done_bind (a : α) (f : α → Program β) : (Program.done a >>= f) = f a := rfl

@[simp] theorem pure_bind (a : α) (f : α → Program β) : ((pure a : Program α) >>= f) = f a := rfl

@[simp] theorem ask_bind (r : Request) (next : r.Answer → Program α) (f : α → Program β) :
    (Program.ask r next >>= f) = .ask r fun answer => next answer >>= f := rfl

@[simp] theorem request_bind (r : Request) (f : r.Answer → Program β) :
    (request r >>= f) = .ask r f := rfl

theorem bind_bind (p : Program α) (f : α → Program β) (g : β → Program γ) :
    (p >>= f >>= g) = (p >>= fun a => f a >>= g) := by
  induction p with
  | done a => rfl
  | ask r next ih =>
    show Program.ask r _ = Program.ask r _
    congr 1
    funext answer
    exact ih answer

structure Exchange where
  request : Request
  answer : request.Answer

/-- Somebody who answers every request, with a state of its own. -/
abbrev Handler (σ : Type) := (r : Request) → σ → r.Answer × σ

/-- The result of the conversation, and the state of who answered. -/
def run (h : Handler σ) : Program α → σ → α × σ
  | .done a, s => (a, s)
  | .ask r next, s => run h (next (h r s).1) (h r s).2

/-- The exchanges of the conversation in their order. -/
def exchanges (h : Handler σ) : Program α → σ → List Exchange
  | .done _, _ => []
  | .ask r next, s => ⟨r, (h r s).1⟩ :: exchanges h (next (h r s).1) (h r s).2

/-- The program can have these exchanges and come to this result. -/
inductive Ran : Program α → List Exchange → α → Prop where
  | done (a : α) : Ran (.done a) [] a
  | ask {r : Request} {next : r.Answer → Program α} {answer : r.Answer} {rest : List Exchange} {a : α} :
      Ran (next answer) rest a → Ran (.ask r next) (⟨r, answer⟩ :: rest) a

theorem ran_run (h : Handler σ) (p : Program α) (s : σ) : Ran p (exchanges h p s) (run h p s).1 := by
  induction p generalizing s with
  | done a => exact .done a
  | ask r next ih => exact .ask (ih _ _)

end Program

end StackSync

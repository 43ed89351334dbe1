import StackSync.Resource.Basic

/-!
# Events

What a round did or ran into is announced as an event on the object. Details stand in order of their keys, one
value a key, and follow the message in the note.
-/

namespace StackSync

inductive EventType where
  | normal
  | warning
  deriving DecidableEq, Repr, Inhabited

inductive Severity where
  | info
  | error
  deriving DecidableEq, Repr, Inhabited

/-- Warnings are errors to whoever reads the log. -/
def EventType.severity : EventType → Severity
  | .normal => .info
  | .warning => .error

structure Event where
  kind : EventType
  reason : String
  message : String
  details : List (String × String)
  deriving DecidableEq, Repr, Inhabited

namespace Event

def info (reason message : String) : Event := ⟨.normal, reason, message, []⟩

def warning (reason message : String) : Event := ⟨.warning, reason, message, []⟩

/-- Puts a detail at its place; one of the same key gives way. -/
def insertDetail (key value : String) : List (String × String) → List (String × String)
  | [] => [(key, value)]
  | (k, v) :: rest =>
    if key < k then (key, value) :: (k, v) :: rest
    else if key = k then (key, value) :: rest
    else (k, v) :: insertDetail key value rest

def withDetail (e : Event) (key value : String) : Event :=
  { e with details := insertDetail key value e.details }

def note (e : Event) : String :=
  e.details.foldl (fun text (k, v) => text ++ " " ++ k ++ "=" ++ v) e.message

end Event

end StackSync

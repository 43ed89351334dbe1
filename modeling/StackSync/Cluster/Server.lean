import StackSync.Cluster.Api
import StackSync.Json.Parser
import StackSync.Json.Patch
import StackSync.Text.Cut

/-!
# An API server in memory

Objects by path, and what a rehearsal needs besides: a record of all requests, and rules by which some of them
fail. A patch is a merge patch. An object that is being deleted goes away with its last finalizer.
-/

namespace StackSync.Cluster

structure EventRequest where
  method : Method
  type : String
  reason : String
  note : String
  action : String
  /-- How often it has been observed, once it has been repeated. -/
  count : Option Nat
  regarding : Option String
  ns : String
  controller : String
  reporter : String
  deriving DecidableEq, Repr, Inhabited

inductive LoggedRequest where
  | object (method : Method) (path : String) (body : Option Json)
  | event (request : EventRequest)
  deriving Inhabited

/-- Requests of a method whose path has a part in it fail. -/
structure FailureRule where
  method : String
  part : String
  response : ErrorResponse
  deriving Inhabited

/-- The response of a rule that gives a body as it is. -/
def responseOfBody (code : Nat) (body : String) : ErrorResponse :=
  ((Json.parse? body).bind ErrorResponse.decode?).getD (unparsedResponse code body)

structure Server where
  objects : List (String × Json)
  rules : List FailureRule
  log : List LoggedRequest
  deriving Inhabited

namespace Server

def empty : Server := ⟨[], [], []⟩

def object? (s : Server) (path : String) : Option Json := s.objects.lookup path

def put (s : Server) (path : String) (object : Json) : Server :=
  { s with objects := (path, object) :: s.objects.filter (·.1 ≠ path) }

def erase (s : Server) (path : String) : Server :=
  { s with objects := s.objects.filter (·.1 ≠ path) }

/-- The first rule that a request falls under. -/
def failure? (s : Server) (method : Method) (path : String) : Option ErrorResponse :=
  (s.rules.find? fun r => r.method == method.text && Text.occursIn r.part path).map (·.response)

def logged (s : Server) (r : LoggedRequest) : Server := { s with log := s.log ++ [r] }

def absent (path : String) : ErrorResponse := ⟨"Failure", path ++ " not found", "NotFound", 404⟩

/-- Whether an object is being deleted and nothing holds it any more. -/
def isReleased (object : Json) : Bool :=
  let metadata := (object.field? "metadata").getD .null
  let deleting := match metadata.field? "deletionTimestamp" with
    | none | some .null => false
    | some _ => true
  let held := match metadata.field? "finalizers" with
    | some (.array finalizers) => !finalizers.isEmpty
    | _ => false
  deleting && !held

/-- Replaces an object by its patched form, or takes it away. -/
def store (s : Server) (path : String) (object : Json) : Server :=
  if isReleased object then s.erase path else s.put path object

/-- Records a request at a part of an object and answers it: with the failure of a rule, or as `act` does. -/
def serve (method : Method) (objectPath part : String) (body : Option Json)
    (act : Json → Server → Json × Server) (s : Server) : Except ApiError Json × Server :=
  let path := objectPath ++ part
  let s := s.logged (.object method path body)
  match s.failure? method path, s.object? objectPath with
  | some response, _ => (.error (.response response), s)
  | none, none => (.error (.response (absent path)), s)
  | none, some object =>
    let (answer, s) := act object s
    (.ok answer, s)

def get (path : String) : Server → Except ApiError Json × Server :=
  serve .get path "" none fun object s => (object, s)

def patch (path : String) (change : Json) : Server → Except ApiError Json × Server :=
  serve .patch path "" (some change) fun object s =>
    let patched := object.mergePatch change
    (patched, s.store path patched)

/-- The status of a patch, and nothing else of it. -/
def statusOnly (change : Json) : Json :=
  match change.field? "status" with
  | some status => .record [("status", status)]
  | none => .record []

/-- Merges the status of a patch into the status of an object. -/
def patchStatus (path : String) (change : Json) : Server → Except ApiError Json × Server :=
  serve .patch path "/status" (some change) fun object s =>
    let patched := object.mergePatch (statusOnly change)
    (patched, s.store path patched)

def publish (path : String) (r : EventRequest) (s : Server) : Except ApiError Unit × Server :=
  let s := s.logged (.event r)
  match s.failure? r.method path with
  | some response => (.error (.response response), s)
  | none => (.ok (), s)

end Server

end StackSync.Cluster

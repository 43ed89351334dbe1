import StackSync.Cluster.Server
import StackSync.Reconcile.Event

/-!
# Publishing events

Events on one object that agree in type and reason are one series: the first is created and the others count
it up, with the note it had. What could not be published is not remembered.
-/

namespace StackSync.Cluster

/-- What the events of a series have in common. -/
structure SeriesKey where
  ns : Option String
  name : Option String
  uid : Option String
  kind : EventType
  reason : String
  deriving DecidableEq, Repr

structure Recorder where
  /-- The namespace this program runs in. -/
  reporter : String
  /-- The last event of every series. -/
  published : List (SeriesKey × EventRequest)
  deriving Inhabited

def reportingController : String := "cfn-flux-controller"

def eventAction : String := "Reconcile"

namespace Recorder

def typeText : EventType → String
  | .normal => "Normal"
  | .warning => "Warning"

def keyOf (m : Manifest) (e : Event) : SeriesKey :=
  ⟨m.metadata.ns, m.metadata.name, m.metadata.uid, e.kind, e.reason⟩

def first (r : Recorder) (m : Manifest) (e : Event) : EventRequest where
  method := .post
  type := typeText e.kind
  reason := e.reason
  note := e.note
  action := eventAction
  count := none
  regarding := m.metadata.name
  ns := m.metadata.ns.getD "default"
  controller := reportingController
  reporter := r.reporter

def repeated (last : EventRequest) : EventRequest :=
  { last with method := .patch, count := some ((last.count.getD 1) + 1) }

def next (r : Recorder) (m : Manifest) (e : Event) : EventRequest :=
  match r.published.lookup (keyOf m e) with
  | some last => repeated last
  | none => r.first m e

def path (m : Manifest) (e : EventRequest) : String :=
  let collection := "/apis/events.k8s.io/v1/namespaces/" ++ e.ns ++ "/events"
  match e.method with
  | .post => collection
  | _ => collection ++ "/" ++ m.metadata.name.getD reportingController ++ ".0"

/-- Publishes an event; a failure is no failure of the round. -/
def publish (r : Recorder) (m : Manifest) (e : Event) (s : Server) : Recorder × Server :=
  let event := r.next m e
  match s.publish (path m event) event with
  | (.error _, s) => (r, s)
  | (.ok (), s) =>
    let key := keyOf m e
    ({ r with published := (key, event) :: r.published.filter (·.1 ≠ key) }, s)

end Recorder

end StackSync.Cluster

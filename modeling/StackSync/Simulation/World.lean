import StackSync.Reconcile.Program
import StackSync.Simulation.MemoryCloud
import StackSync.Simulation.Network

/-!
# A world for rehearsals

Everything a round talks to, in memory: the cloud and its template store, sources, other stacks, the network,
and a record of events. A single answer of the cloud can be overridden to see what a stale or odd one leads to.
-/

namespace StackSync

/-- Answers that take the place of the next successful ones, operation by operation. -/
structure Overrides where
  describeStack : List (Option StackDescription)
  createStack : List ChangeSetHandle
  updateStack : List ChangeSetHandle
  describeChangeSet : List (Option ChangeSetDescription)
  deriving Inhabited

namespace Overrides

def none : Overrides := ⟨[], [], [], []⟩

/-- A successful answer, or the first of those that take its place. -/
def apply (result : CloudAnswer α) (queue : List α) : CloudAnswer α × List α :=
  match result, queue with
  | .ok _, a :: rest => (.ok a, rest)
  | result, queue => (result, queue)

end Overrides

/-- Kind, namespace and name of a source. -/
abbrev SourceKey := String × String × String

structure World where
  cloud : MemoryCloud
  templates : MemoryTemplates
  overrides : Overrides
  /-- The sources there are, each with its artifact once it has one. -/
  sources : List (SourceKey × Option Artifact)
  /-- Why every look-up of a source fails, if it does. -/
  sourceFailure : Option String
  manifests : List ((String × String) × Manifest)
  /-- Why every look-up of a stack fails, if it does. -/
  stackFailure : Option String
  network : Network
  events : List Event
  submitted : List ChangeSetRequest
  deriving Inhabited

namespace World

def ofNetwork (network : Network) : World where
  cloud := .empty
  templates := .empty
  overrides := .none
  sources := []
  sourceFailure := none
  manifests := []
  stackFailure := none
  network := network
  events := []
  submitted := []

def onCloud (w : World) (act : CloudAction α) : CloudAnswer α × World :=
  let (result, cloud) := act w.cloud
  (result, { w with cloud })

def addSource (w : World) (key : SourceKey) (artifact : Option Artifact) : World :=
  { w with sources := (key, artifact) :: w.sources.filter (·.1 ≠ key) }

def addStack (w : World) (m : Manifest) : World :=
  let key := (m.ns, m.name)
  { w with manifests := (key, m) :: w.manifests.filter (·.1 ≠ key) }

def findStack (w : World) (ns name : String) : Except String (Option Manifest) :=
  match w.stackFailure with
  | some detail => .error detail
  | none => .ok (w.manifests.lookup (ns, name))

def findArtifact (w : World) (kind ns name : String) : Except SourceError (Option Artifact) :=
  match w.sourceFailure with
  | some detail => .error (.api detail)
  | none =>
    if !sourceKinds.contains kind then .error (.unsupportedKind kind)
    else
      match w.sources.lookup (kind, ns, name) with
      | some artifact => .ok artifact
      | none => .error (.notFound (sourceLabel kind ns name))

def describeStack (w : World) (region name : String) : CloudAnswer (Option StackDescription) × World :=
  let (result, w) := w.onCloud (MemoryCloud.describeStack region name)
  let (result, queue) := Overrides.apply result w.overrides.describeStack
  (result, { w with overrides := { w.overrides with describeStack := queue } })

def createStack (w : World) (r : ChangeSetRequest) : CloudAnswer ChangeSetHandle × World :=
  let (result, w) := { w with submitted := w.submitted ++ [r] }.onCloud (MemoryCloud.createStack r)
  let (result, queue) := Overrides.apply result w.overrides.createStack
  (result, { w with overrides := { w.overrides with createStack := queue } })

def updateStack (w : World) (r : ChangeSetRequest) : CloudAnswer ChangeSetHandle × World :=
  let (result, w) := { w with submitted := w.submitted ++ [r] }.onCloud (MemoryCloud.updateStack r)
  let (result, queue) := Overrides.apply result w.overrides.updateStack
  (result, { w with overrides := { w.overrides with updateStack := queue } })

def describeChangeSet (w : World) (region name : String) (h : ChangeSetHandle) :
    CloudAnswer (Option ChangeSetDescription) × World :=
  let (result, w) := w.onCloud (MemoryCloud.describeChangeSet region name h)
  let (result, queue) := Overrides.apply result w.overrides.describeChangeSet
  (result, { w with overrides := { w.overrides with describeChangeSet := queue } })

def uploadTemplate (w : World) (bucket region key body : String) : CloudAnswer String × World :=
  let (result, templates) := w.templates.upload bucket region key body
  (result, { w with templates })

def answer : Program.Handler World
  | .findStack ns name, w => (w.findStack ns name, w)
  | .findArtifact kind ns name, w => (w.findArtifact kind ns name, w)
  | .download url, w =>
    let (reply, network) := w.network.attempt url
    (reply, { w with network })
  | .describeStack region name, w => w.describeStack region name
  | .createStack r, w => w.createStack r
  | .updateStack r, w => w.updateStack r
  | .deleteStack region name, w => w.onCloud (MemoryCloud.deleteStack region name)
  | .continueRollback region name, w => w.onCloud (MemoryCloud.continueUpdateRollback region name)
  | .describeChangeSet region name h, w => w.describeChangeSet region name h
  | .executeChangeSet region name h, w => w.onCloud (MemoryCloud.executeChangeSet region name h)
  | .deleteChangeSet region name h, w => w.onCloud (MemoryCloud.deleteChangeSet region name h)
  | .uploadTemplate bucket region key body, w => w.uploadTemplate bucket region key body
  | .emit event, w => ((), { w with events := w.events ++ [event] })

end World

end StackSync

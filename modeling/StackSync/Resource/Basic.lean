/-!
# The custom resource

A `Manifest` is one declared stack: metadata that the API server keeps, the `Spec` a user writes and the
`Status` this controller writes. The status carries a list of conditions; the controller owns the one of
type `Ready` and leaves the others to their writers.
-/

namespace StackSync

structure KeyValue where
  key : String
  value : String
  deriving DecidableEq, Repr, Inhabited

structure SourceRef where
  kind : String
  name : String
  ns : Option String
  deriving DecidableEq, Repr, Inhabited

structure DependencyRef where
  name : String
  ns : Option String
  deriving DecidableEq, Repr, Inhabited

structure Spec where
  stackName : String
  /-- The controller's default region, if absent or blank. -/
  region : Option String
  templatePath : String
  sourceRef : SourceRef
  interval : String
  pollInterval : Option String
  retryInterval : Option String
  suspend : Bool
  destroyStackOnDeletion : Bool
  dependsOn : List DependencyRef
  stackParameters : List KeyValue
  stackTags : List KeyValue
  deriving DecidableEq, Repr, Inhabited

inductive ConditionStatus where
  | true
  | false
  | unknown
  deriving DecidableEq, Repr, Inhabited

structure Condition where
  /-- The type of the condition, unique in a list that its writers keep in order. -/
  type : String
  status : ConditionStatus
  reason : Option String
  message : Option String
  observedGeneration : Option Int64
  lastTransitionTime : Option String
  deriving DecidableEq, Repr, Inhabited

structure Status where
  observedGeneration : Option Int64
  conditions : List Condition
  lastAttemptedRevision : Option String
  lastAppliedRevision : Option String
  lastAttemptedChangeSet : Option String
  lastAppliedChangeSet : Option String
  stackName : Option String
  deriving DecidableEq, Repr, Inhabited

def Status.empty : Status := ⟨none, [], none, none, none, none, none⟩

structure Metadata where
  name : Option String
  generateName : Option String
  ns : Option String
  uid : Option String
  generation : Option Int64
  finalizers : Option (List String)
  deleting : Bool
  deriving DecidableEq, Repr, Inhabited

structure Manifest where
  metadata : Metadata
  spec : Spec
  status : Option Status
  deriving DecidableEq, Repr, Inhabited

def readyType : String := "Ready"

def finalizerName : String := "finalizers.cloudformation.contrib.fluxcd.io"

def Condition.isReady (c : Condition) : Bool := c.type == readyType

def Condition.isTrue (c : Condition) : Bool := c.status == .true

def Status.ready? (s : Status) : Option Condition := s.conditions.find? (·.isReady)

namespace Manifest

/-- The name, or the base of a generated one. -/
def name (m : Manifest) : String := (m.metadata.name <|> m.metadata.generateName).getD ""

def ns (m : Manifest) : String := m.metadata.ns.getD ""

def ready? (m : Manifest) : Option Condition := m.status.bind (·.ready?)

def finalizers (m : Manifest) : List String := m.metadata.finalizers.getD []

def hasFinalizer (m : Manifest) : Bool := m.finalizers.contains finalizerName

def isDeleting (m : Manifest) : Bool := m.metadata.deleting

end Manifest

end StackSync

import StackSync.Cloud.Basic
import StackSync.Reconcile.ChangeSetName

/-!
# The target

Once artifact and template are at hand, everything that a round will ask of the cloud is fixed: the region,
the change set and the request for it. A recorded handle is taken over only if it carries the name of this
attempt; its ARN then finds the very change set that an earlier round made.
-/

namespace StackSync

def tagNamespace : String := "cfn-flux-controller"

def programVersion : String := "0.1.0"

/-- Three tags that identify the object, the operator's and the user's: nothing is merged or dropped. -/
def tagsOf (name ns : String) (defaults user : List KeyValue) : List KeyValue :=
  [⟨tagNamespace ++ "/version", programVersion⟩, ⟨tagNamespace ++ "/name", name⟩,
    ⟨tagNamespace ++ "/namespace", ns⟩] ++ defaults ++ user

/-- The region of a spec, or the default if it is absent or blank. -/
def Spec.regionOr (spec : Spec) (default : String) : String :=
  (spec.region.bind Text.nonBlank?).getD default

structure TargetInput where
  objectName : String
  objectNs : String
  spec : Spec
  generation : Int64
  revision : String
  templateBody : String
  lastAttempted : Option String
  defaultRegion : String
  bucket : Option String
  defaultTags : List KeyValue
  deriving DecidableEq, Repr

structure TargetStack where
  objectName : String
  objectNs : String
  stackName : String
  region : String
  generation : Int64
  revision : String
  changeSet : ChangeSetHandle
  templateBody : String
  bucket : Option String
  parameters : List KeyValue
  tags : List KeyValue
  deriving DecidableEq, Repr, Inhabited

/-- The recorded handle if it carries this name, and else a new one. -/
def attemptHandle (recorded : Option String) (name : String) : ChangeSetHandle :=
  ((recorded.map .parse).filter (·.name == name)).getD (.named name)

namespace TargetStack

def build (i : TargetInput) : TargetStack where
  objectName := i.objectName
  objectNs := i.objectNs
  stackName := i.spec.stackName
  region := i.spec.regionOr i.defaultRegion
  generation := i.generation
  revision := i.revision
  changeSet := attemptHandle i.lastAttempted (ChangeSetName.of i.generation i.revision)
  templateBody := i.templateBody
  bucket := i.bucket
  parameters := i.spec.stackParameters
  tags := tagsOf i.objectName i.objectNs i.defaultTags i.spec.stackTags

def objectKey (t : TargetStack) : String :=
  "flux-" ++ t.objectNs ++ "-" ++ t.objectName ++ "-" ++ t.changeSet.name ++ ".template"

def request (t : TargetStack) (template : TemplateSource) : ChangeSetRequest where
  region := t.region
  stackName := t.stackName
  changeSetName := t.changeSet.name
  template := template
  parameters := t.parameters
  tags := t.tags

end TargetStack

end StackSync

import StackSync.Resource.Encode
import StackSync.Resource.Schema

/-!
# The definition of the custom resource

What an API server has to know before it stores stacks: their names, what it shows of them in a list, and the
shape of a spec and of a status.
-/

namespace StackSync.Definition

def group : String := "cloudformation.contrib.fluxcd.io"

def plural : String := "cloudformationstacks"

def keyValueShape : Shape :=
  .record [("key", .required, "", .text), ("value", .required, "", .text)]

def sourceRefShape : Shape :=
  .record [
    ("kind", .required, "GitRepository | Bucket | OCIRepository", .text),
    ("name", .required, "", .text),
    ("namespace", .optional, "Defaults to the namespace of the referencing stack", .text)]

def dependencyShape : Shape :=
  .record [("name", .required, "", .text), ("namespace", .optional, "", .text)]

def specShape : Shape :=
  .record [
    ("dependsOn", .defaulted,
      "Other CloudFormationStack objects that must be Ready before this one is reconciled",
      .list dependencyShape),
    ("destroyStackOnDeletion", .defaulted,
      "Delete the CloudFormation stack when this object is deleted", .switch),
    ("interval", .required,
      "How often the stack is reconciled against its template (e.g. \"10m\")", .text),
    ("pollInterval", .optional,
      "How often to check on in-flight stack and change set operations (default \"5s\")", .text),
    ("region", .optional, "AWS region of the stack; controller default region when omitted", .text),
    ("retryInterval", .optional,
      "Delay before retrying after a failed reconciliation (default \"1m\")", .text),
    ("sourceRef", .required,
      "Flux source (GitRepository, Bucket or OCIRepository) holding the template", sourceRefShape),
    ("stackName", .required, "Name of the CloudFormation stack to create and keep in sync", .text),
    ("stackParameters", .defaulted, "", .list keyValueShape),
    ("stackTags", .defaulted, "", .list keyValueShape),
    ("suspend", .defaulted, "Stops reconciliation of this object when true", .switch),
    ("templatePath", .required,
      "Path of the template file, relative to the root of the source artifact", .text)]

def conditionShape : Shape :=
  .record [
    ("lastTransitionTime", .optional, "", .text),
    ("message", .optional, "", .text),
    ("observedGeneration", .optional, "", .int64),
    ("reason", .optional, "", .text),
    ("status", .required, "", .choice ["True", "False", "Unknown"]),
    ("type", .required, "Condition type; other writers' types are kept verbatim", .text)]

def statusShape : Shape :=
  .record [
    ("conditions", .defaulted, "K8s-style conditions; the controller owns the Ready condition",
      .list conditionShape),
    ("lastAppliedChangeSet", .optional, "", .text),
    ("lastAppliedRevision", .optional, "", .text),
    ("lastAttemptedChangeSet", .optional, "", .text),
    ("lastAttemptedRevision", .optional, "", .text),
    ("observedGeneration", .optional, "", .int64),
    ("stackName", .optional, "Stack name as resolved during the latest reconciliation", .text)]

def resourceShape : Shape :=
  .record [("spec", .required, "", specShape), ("status", .optional, "", statusShape)]

def schema : Json :=
  .record ([
    ("title", .string "CloudFormationStack"),
    ("description", .string
      "Auto-generated derived type for CloudFormationStackSpec via \x60CustomResource\x60")] ++
    resourceShape.entries)

/-- Columns of a list of stacks: a title and where its values are found. -/
def columns : List (String × String) := [
  ("Stack", ".spec.stackName"),
  ("Ready", ".status.conditions[?(@.type==\"Ready\")].status"),
  ("Status", ".status.conditions[?(@.type==\"Ready\")].message")]

def columnJson (title path : String) : Json :=
  .record [("name", .string title), ("type", .string "string"), ("jsonPath", .string path)]

def versionJson : Json :=
  .record [
    ("name", .string "v1alpha1"), ("served", .bool true), ("storage", .bool true),
    ("schema", .record [("openAPIV3Schema", schema)]),
    ("subresources", .record [("status", .record [])]),
    ("additionalPrinterColumns", .array (columns.map fun (title, path) => columnJson title path))]

def toJson : Json :=
  .record [
    ("apiVersion", .string "apiextensions.k8s.io/v1"),
    ("kind", .string "CustomResourceDefinition"),
    ("metadata", .record [("name", .string (plural ++ "." ++ group))]),
    ("spec", .record [
      ("group", .string group),
      ("names", .record [
        ("categories", .array []), ("kind", .string "CloudFormationStack"), ("plural", .string plural),
        ("shortNames", .array [.string "cfnstack"]), ("singular", .string "cloudformationstack")]),
      ("scope", .string "Namespaced"),
      ("versions", .array [versionJson])])]

end StackSync.Definition

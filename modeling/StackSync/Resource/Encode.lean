import StackSync.Json.Basic
import StackSync.Resource.Basic

/-!
# Writing the resource as JSON

Absent options and empty lists are left out; the two switches of a spec are always written. What is left out
is exactly what the decoder fills in, so nothing is lost.
-/

namespace StackSync

def KeyValue.toJson (kv : KeyValue) : Json :=
  .record [("key", .string kv.key), ("value", .string kv.value)]

def SourceRef.toJson (r : SourceRef) : Json :=
  .recordOf [("kind", some (.string r.kind)), ("name", some (.string r.name)),
    ("namespace", r.ns.map .string)]

def DependencyRef.toJson (r : DependencyRef) : Json :=
  .recordOf [("name", some (.string r.name)), ("namespace", r.ns.map .string)]

/-- A list, unless it is empty. -/
def Json.nonEmpty? (items : List Json) : Option Json :=
  if items.isEmpty then none else some (.array items)

def Spec.toJson (s : Spec) : Json :=
  .recordOf [
    ("stackName", some (.string s.stackName)),
    ("region", s.region.map .string),
    ("templatePath", some (.string s.templatePath)),
    ("sourceRef", some s.sourceRef.toJson),
    ("interval", some (.string s.interval)),
    ("pollInterval", s.pollInterval.map .string),
    ("retryInterval", s.retryInterval.map .string),
    ("suspend", some (.bool s.suspend)),
    ("destroyStackOnDeletion", some (.bool s.destroyStackOnDeletion)),
    ("dependsOn", Json.nonEmpty? (s.dependsOn.map (·.toJson))),
    ("stackParameters", Json.nonEmpty? (s.stackParameters.map (·.toJson))),
    ("stackTags", Json.nonEmpty? (s.stackTags.map (·.toJson)))]

def ConditionStatus.text : ConditionStatus → String
  | .true => "True"
  | .false => "False"
  | .unknown => "Unknown"

def Json.ofInt64 (n : Int64) : Json := .integer n.toInt

def Condition.toJson (c : Condition) : Json :=
  .recordOf [
    ("type", some (.string c.type)),
    ("status", some (.string c.status.text)),
    ("reason", c.reason.map .string),
    ("message", c.message.map .string),
    ("observedGeneration", c.observedGeneration.map .ofInt64),
    ("lastTransitionTime", c.lastTransitionTime.map .string)]

def Status.toJson (s : Status) : Json :=
  .recordOf [
    ("observedGeneration", s.observedGeneration.map .ofInt64),
    ("conditions", Json.nonEmpty? (s.conditions.map (·.toJson))),
    ("lastAttemptedRevision", s.lastAttemptedRevision.map .string),
    ("lastAppliedRevision", s.lastAppliedRevision.map .string),
    ("lastAttemptedChangeSet", s.lastAttemptedChangeSet.map .string),
    ("lastAppliedChangeSet", s.lastAppliedChangeSet.map .string),
    ("stackName", s.stackName.map .string)]

end StackSync

import StackSync.Json.Decode
import StackSync.Resource.Basic
import StackSync.Text.Timestamp

/-!
# Reading the resource from JSON

One decoder a record, by names and by positions; `Manifest.decode` is what the API server's objects go
through. Metadata is read leniently: everything in it is optional, and only its types can be wrong.
-/

namespace StackSync

open Json

namespace KeyValue

def byName (o : Fields) : Decoded KeyValue := do
  let key ← present? o "key" asString
  let value ← present? o "value" asString
  return ⟨← required "key" key, ← required "value" value⟩

def byPosition : Positions KeyValue := do
  let expected := withElements "KeyValue" 2
  return ⟨← .next expected asString, ← .next expected asString⟩

def decode : Json → Decoded KeyValue := asRecord "KeyValue" byName byPosition

end KeyValue

namespace SourceRef

def byName (o : Fields) : Decoded SourceRef := do
  let kind ← present? o "kind" asString
  let name ← present? o "name" asString
  let ns ← optional o "namespace" asString
  return ⟨← required "kind" kind, ← required "name" name, ns⟩

def byPosition : Positions SourceRef := do
  let expected := withElements "SourceReference" 3
  return ⟨← .next expected asString, ← .next expected asString,
    ← .nextOr none (asOptional asString)⟩

def decode : Json → Decoded SourceRef := asRecord "SourceReference" byName byPosition

end SourceRef

namespace DependencyRef

def byName (o : Fields) : Decoded DependencyRef := do
  let name ← present? o "name" asString
  let ns ← optional o "namespace" asString
  return ⟨← required "name" name, ns⟩

def byPosition : Positions DependencyRef := do
  return ⟨← .next (withElements "DependencyReference" 2) asString,
    ← .nextOr none (asOptional asString)⟩

def decode : Json → Decoded DependencyRef := asRecord "DependencyReference" byName byPosition

end DependencyRef

namespace Spec

/-- In the order of the keys; what is required is missed in the order of declaration. -/
def byName (o : Fields) : Decoded Spec := do
  let dependsOn ← orDefault o "dependsOn" [] (asArray DependencyRef.decode)
  let destroyStackOnDeletion ← orDefault o "destroyStackOnDeletion" false asBool
  let interval ← present? o "interval" asString
  let pollInterval ← optional o "pollInterval" asString
  let region ← optional o "region" asString
  let retryInterval ← optional o "retryInterval" asString
  let sourceRef ← present? o "sourceRef" SourceRef.decode
  let stackName ← present? o "stackName" asString
  let stackParameters ← orDefault o "stackParameters" [] (asArray KeyValue.decode)
  let stackTags ← orDefault o "stackTags" [] (asArray KeyValue.decode)
  let suspend ← orDefault o "suspend" false asBool
  let templatePath ← present? o "templatePath" asString
  let stackName ← required "stackName" stackName
  let templatePath ← required "templatePath" templatePath
  let sourceRef ← required "sourceRef" sourceRef
  let interval ← required "interval" interval
  return { stackName, region, templatePath, sourceRef, interval, pollInterval, retryInterval,
           suspend, destroyStackOnDeletion, dependsOn, stackParameters, stackTags }

def byPosition : Positions Spec := do
  let expected := withElements "CloudFormationStackSpec" 12
  let stackName ← .next expected asString
  let region ← .nextOr none (asOptional asString)
  let templatePath ← .next expected asString
  let sourceRef ← .next expected SourceRef.decode
  let interval ← .next expected asString
  let pollInterval ← .nextOr none (asOptional asString)
  let retryInterval ← .nextOr none (asOptional asString)
  let suspend ← .nextOr false asBool
  let destroyStackOnDeletion ← .nextOr false asBool
  let dependsOn ← .nextOr [] (asArray DependencyRef.decode)
  let stackParameters ← .nextOr [] (asArray KeyValue.decode)
  let stackTags ← .nextOr [] (asArray KeyValue.decode)
  return { stackName, region, templatePath, sourceRef, interval, pollInterval, retryInterval,
           suspend, destroyStackOnDeletion, dependsOn, stackParameters, stackTags }

def decode : Json → Decoded Spec := asRecord "CloudFormationStackSpec" byName byPosition

end Spec

namespace ConditionStatus

def ofName (name : String) : Decoded ConditionStatus :=
  match name with
  | "True" => .ok .true
  | "False" => .ok .false
  | "Unknown" => .ok .unknown
  | _ => .error (.unknownVariant name ["True", "False", "Unknown"])

/-- A name, or an object with the name as its only key and nothing under it. -/
def decode : Json → Decoded ConditionStatus
  | .string name => ofName name
  | .object [(name, content)] => do
    let status ← ofName name
    if content = .null then return status else throw (.wrongType content "unit")
  | .object fields => .error (.wrongValue (.object fields) "map with a single key")
  | v => .error (.wrongType v "string or map")

end ConditionStatus

namespace Condition

def byName (o : Fields) : Decoded Condition := do
  let lastTransitionTime ← optional o "lastTransitionTime" asString
  let message ← optional o "message" asString
  let observedGeneration ← optional o "observedGeneration" asInt64
  let reason ← optional o "reason" asString
  let status ← present? o "status" ConditionStatus.decode
  let type ← present? o "type" asString
  let type ← required "type" type
  let status ← required "status" status
  return { type, status, reason, message, observedGeneration, lastTransitionTime }

def byPosition : Positions Condition := do
  let expected := withElements "Condition" 6
  let type ← .next expected asString
  let status ← .next expected ConditionStatus.decode
  let reason ← .next expected (asOptional asString)
  let message ← .next expected (asOptional asString)
  let observedGeneration ← .next expected (asOptional asInt64)
  let lastTransitionTime ← .next expected (asOptional asString)
  return { type, status, reason, message, observedGeneration, lastTransitionTime }

def decode : Json → Decoded Condition := asRecord "Condition" byName byPosition

end Condition

namespace Status

def byName (o : Fields) : Decoded Status := do
  let conditions ← orDefault o "conditions" [] (asArray Condition.decode)
  let lastAppliedChangeSet ← optional o "lastAppliedChangeSet" asString
  let lastAppliedRevision ← optional o "lastAppliedRevision" asString
  let lastAttemptedChangeSet ← optional o "lastAttemptedChangeSet" asString
  let lastAttemptedRevision ← optional o "lastAttemptedRevision" asString
  let observedGeneration ← optional o "observedGeneration" asInt64
  let stackName ← optional o "stackName" asString
  return { observedGeneration, conditions, lastAttemptedRevision, lastAppliedRevision,
           lastAttemptedChangeSet, lastAppliedChangeSet, stackName }

def byPosition : Positions Status := do
  let expected := withElements "CloudFormationStackStatus" 7
  let observedGeneration ← .next expected (asOptional asInt64)
  let conditions ← .nextOr [] (asArray Condition.decode)
  let lastAttemptedRevision ← .next expected (asOptional asString)
  let lastAppliedRevision ← .next expected (asOptional asString)
  let lastAttemptedChangeSet ← .next expected (asOptional asString)
  let lastAppliedChangeSet ← .next expected (asOptional asString)
  let stackName ← .next expected (asOptional asString)
  return { observedGeneration, conditions, lastAttemptedRevision, lastAppliedRevision,
           lastAttemptedChangeSet, lastAppliedChangeSet, stackName }

def decode : Json → Decoded Status := asRecord "CloudFormationStackStatus" byName byPosition

end Status

namespace Metadata

def timestamp : Json → Decoded Unit
  | .string s => (Text.Timestamp.check s).mapError fun fault => .malformed fault.message
  | v => .error (.wrongType v "an RFC 3339 formatted date and time string")

def stringMap : Json → Decoded Unit
  | .object fields => fields.forM fun (_, v) => (asString v).map fun _ => ()
  | v => .error (.wrongType v "a map")

def owner : Json → Decoded Unit
  | .object o => do
    let _ ← optional o "apiVersion" asString
    let _ ← optional o "blockOwnerDeletion" asBool
    let _ ← optional o "controller" asBool
    let _ ← optional o "kind" asString
    let _ ← optional o "name" asString
    let _ ← optional o "uid" asString
  | v => .error (.wrongType v "OwnerReference")

def managedFields : Json → Decoded Unit
  | .object o => do
    let _ ← optional o "apiVersion" asString
    let _ ← optional o "fieldsType" asString
    let _ ← optional o "manager" asString
    let _ ← optional o "operation" asString
    let _ ← optional o "subresource" asString
    let _ ← optional o "time" timestamp
  | v => .error (.wrongType v "ManagedFieldsEntry")

def byName (o : Fields) : Decoded Metadata := do
  let _ ← optional o "annotations" stringMap
  let _ ← optional o "creationTimestamp" timestamp
  let _ ← optional o "deletionGracePeriodSeconds" asInt64
  let deletion ← optional o "deletionTimestamp" timestamp
  let finalizers ← optional o "finalizers" (asArray asString)
  let generateName ← optional o "generateName" asString
  let generation ← optional o "generation" asInt64
  let _ ← optional o "labels" stringMap
  let _ ← optional o "managedFields" (asArray managedFields)
  let name ← optional o "name" asString
  let ns ← optional o "namespace" asString
  let _ ← optional o "ownerReferences" (asArray owner)
  let _ ← optional o "resourceVersion" asString
  let _ ← optional o "selfLink" asString
  let uid ← optional o "uid" asString
  return { name, generateName, ns, uid, generation, finalizers, deleting := deletion.isSome }

/-- Metadata is an object, never an array. -/
def decode : Json → Decoded Metadata
  | .object fields => byName fields
  | v => .error (.wrongType v "ObjectMeta")

end Metadata

namespace Manifest

def byName (o : Fields) : Decoded Manifest := do
  let metadata ← present? o "metadata" Metadata.decode
  let spec ← present? o "spec" Spec.decode
  let status ← optional o "status" Status.decode
  return ⟨← required "metadata" metadata, ← required "spec" spec, status⟩

def byPosition : Positions Manifest := do
  let expected := withElements "CloudFormationStack" 3
  return ⟨← .next expected Metadata.decode, ← .next expected Spec.decode,
    ← .next expected (asOptional Status.decode)⟩

def decode : Json → Decoded Manifest := asRecord "CloudFormationStack" byName byPosition

end Manifest

end StackSync

import StackSync.Duration
import StackSync.Settings.Tags
import StackSync.Text.Integer

/-!
# Settings from the environment

Every setting is a variable of the environment with a default or without one. Numbers are read in the order
of declaration and the first bad one is the answer; texts are taken as they are, and what they mean (a
duration, a bucket, tags) is decided where they are used.
-/

namespace StackSync

structure DownloadSettings where
  /-- Replaces host and port of artifact URLs, for running outside of the cluster. -/
  hostOverride : Option String
  retries : Nat
  timeoutSeconds : Nat
  deriving Repr

structure Settings where
  maxConcurrentReconciles : Nat
  dependencyRequeueInterval : String
  templateBucket : Option String
  stackTags : Option String
  watchNamespace : Option String
  defaultRegion : String
  podNamespace : String
  download : DownloadSettings
  deriving Repr

/-- What one round over a stack needs of the settings. -/
structure OperatorSettings where
  defaultRegion : String
  /-- The bucket templates are uploaded to; without one they are passed inline. -/
  templateBucket : Option String
  defaultTags : List KeyValue
  dependencyRequeue : Duration
  deriving DecidableEq, Repr

/-- A variable whose value is no number in range. -/
structure BadVariable where
  name : String
  deriving Repr

def BadVariable.message (e : BadVariable) : String :=
  "Failed to parse environment variable " ++ e.name

abbrev Environment := String → Option String

namespace Environment

def text (env : Environment) (name default : String) : String := (env name).getD default

/-- A whole number not above `bound`. -/
def number (env : Environment) (name : String) (bound default : Nat) : Except BadVariable Nat :=
  match env name with
  | none => .ok default
  | some value =>
    match Text.readNat? bound value with
    | some n => .ok n
    | none => .error ⟨name⟩

end Environment

namespace Settings

def ofEnvironment (env : Environment) : Except BadVariable Settings := do
  let maxConcurrentReconciles ← env.number "CFN_MAX_CONCURRENT_RECONCILES" (UInt16.size - 1) 4
  let retries ← env.number "CFN_HTTP_RETRY" (UInt32.size - 1) 9
  let timeoutSeconds ← env.number "CFN_HTTP_TIMEOUT_SECS" (UInt64.size - 1) 60
  return {
    maxConcurrentReconciles
    dependencyRequeueInterval := env.text "CFN_DEPENDENCY_REQUEUE_INTERVAL" "30s"
    templateBucket := env "CFN_TEMPLATE_BUCKET"
    stackTags := env "CFN_STACK_TAGS"
    watchNamespace := env "CFN_WATCH_NAMESPACE"
    defaultRegion := env.text "AWS_REGION" "us-east-1"
    podNamespace := env.text "POD_NAMESPACE" "default"
    download := ⟨env "SOURCE_CONTROLLER_LOCALHOST", retries, timeoutSeconds⟩ }

/-- Thirty seconds, unless the setting is a duration. -/
def dependencyRequeue (s : Settings) : Duration :=
  (Duration.parse? s.dependencyRequeueInterval).getD (.ofSeconds 30)

def operator (s : Settings) : OperatorSettings where
  defaultRegion := s.defaultRegion
  templateBucket := s.templateBucket.bind Text.nonBlank?
  defaultTags := (s.stackTags.map Tags.parse).getD []
  dependencyRequeue := s.dependencyRequeue

end Settings

end StackSync

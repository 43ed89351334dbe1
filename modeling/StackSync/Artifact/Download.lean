import StackSync.Artifact.Digest
import StackSync.Artifact.Template
import StackSync.Reconcile.Program
import StackSync.Settings.Basic
import StackSync.Url.Parser

/-!
# Downloading artifacts

An artifact is asked for once and, as long as the server fails or cannot be reached, again up to a bound. Its
bytes count for nothing until they have the advertised digest; only then are they unpacked. What cannot succeed
(no usable digest, no usable URL) is found out before anything is asked for.
-/

namespace StackSync

inductive Verdict where
  | body (data : ByteArray)
  | tryAgain (error : ArtifactError)
  | giveUp (error : ArtifactError)

def Reply.verdict (url : Url) : Reply → Verdict
  | .response status body =>
    if 200 ≤ status ∧ status < 300 then
      match body with
      | .ok data => .body data
      | .error detail => .giveUp (.http url.text detail)
    else if 500 ≤ status ∧ status < 600 then .tryAgain (.status url.text status)
    else .giveUp (.status url.text status)
  | .failure true detail => .tryAgain (.http url.text detail)
  | .failure false detail => .giveUp (.http url.text detail)

/-- Asks for a URL, and up to `retries` times again. -/
def fetch (url : Url) : (retries : Nat) → Program (Except ArtifactError ByteArray)
  | 0 => do
    match (← Program.request (.download url)).verdict url with
    | .body data => return .ok data
    | .giveUp error | .tryAgain error => return .error error
  | retries + 1 => do
    match (← Program.request (.download url)).verdict url with
    | .body data => return .ok data
    | .giveUp error => return .error error
    | .tryAgain _ => fetch url retries

/-- The schemes something can be downloaded by. -/
def downloadSchemes : List String := ["http", "https"]

def unusableScheme (url : Url) : ArtifactError :=
  .http url.text ("builder error for url (" ++ url.withoutUserInfo.text ++ ")")

def download (url : Url) (expected : ArtifactDigest) (retries : Nat) :
    Program (Except ArtifactError ByteArray) :=
  if !downloadSchemes.contains url.scheme || !url.hasHost then return .error (unusableScheme url)
  else do
    match ← fetch url retries with
    | .error error => return .error error
    | .ok data =>
      let actual : ArtifactDigest := ⟨expected.algorithm, expected.algorithm.hexDigest data⟩
      if actual.hex = expected.hex then return .ok data
      else return .error (.digestMismatch expected.text actual.text)

/-- Host and port of an override; a colon has a port behind it. -/
def splitOverride? (override : String) : Option (List Char × Option Nat) :=
  match Text.cutLast? ':' override.toList with
  | none => some (override.toList, none)
  | some (host, port) =>
    (Text.readNat? 65535 (String.ofList port)).map fun n => (host, some n)

namespace DownloadSettings

/-- The URL an artifact is downloaded from: the advertised one, with the override in place of its host. -/
def downloadUrl (s : DownloadSettings) (raw : String) : Except ArtifactError Url := do
  let url ← (Url.parse raw).mapError fun e => .http raw e.message
  match s.hostOverride.bind Text.nonBlank? with
  | none => return url
  | some override =>
    let refused : ArtifactError := .http raw ("invalid host override '" ++ override ++ "'")
    match splitOverride? override with
    | none => throw refused
    | some (host, port) =>
      let moved ← (url.withHost host).mapError fun e => .http raw e.message
      match moved.withPort? port with
      | some resolved => return resolved
      | none => throw refused

end DownloadSettings

def fetchTemplate (s : DownloadSettings) (w : Workspace) (artifact : Artifact) (path : String) :
    Program (Except ArtifactError String) :=
  match artifact.requiredDigest with
  | .error error => return .error error
  | .ok expected =>
    match s.downloadUrl artifact.url with
    | .error error => return .error error
    | .ok url => do
      match ← download url expected s.retries with
      | .error error => return .error error
      | .ok data => return templateInArchive w data path

end StackSync

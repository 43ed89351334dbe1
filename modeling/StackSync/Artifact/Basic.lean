import StackSync.Json.Decode

/-!
# Artifacts and sources

A source object publishes an artifact in its status: where it can be downloaded, which revision it is, and the
digest to check it by. A source without one has not produced an artifact yet, which is no error.
-/

namespace StackSync

structure Artifact where
  url : String
  revision : String
  /-- Algorithm and digits, with a colon between them. -/
  digest : Option String
  /-- The digits of a SHA-256, as older sources give them. -/
  checksum : Option String
  deriving DecidableEq, Repr, Inhabited

namespace Artifact

open Json

def byName (o : Fields) : Decoded Artifact := do
  let checksum ← optional o "checksum" asString
  let digest ← optional o "digest" asString
  let revision ← orDefault o "revision" "" asString
  let url ← present? o "url" asString
  return ⟨← required "url" url, revision, digest, checksum⟩

def byPosition : Positions Artifact := do
  return ⟨← .next (withElements "Artifact" 4) asString, ← .nextOr "" asString,
    ← .nextOr none (asOptional asString), ← .nextOr none (asOptional asString)⟩

def decode : Json → Decoded Artifact := asRecord "Artifact" byName byPosition

end Artifact

/-- Why no artifact could be looked up. -/
inductive SourceError where
  | notFound (source : String)
  | unsupportedKind (kind : String)
  | api (detail : String)
  | decode (source detail : String)
  deriving DecidableEq, Repr

def SourceError.message : SourceError → String
  | .notFound source => "source " ++ source ++ " not found"
  | .unsupportedKind kind => "unsupported source kind '" ++ kind ++ "'"
  | .api detail => "source lookup failed: " ++ detail
  | .decode source detail => "malformed artifact in " ++ source ++ ": " ++ detail

/-- The kinds of sources that publish artifacts. -/
def sourceKinds : List String := ["GitRepository", "Bucket", "OCIRepository"]

/-- A source as messages name it. -/
def sourceLabel (kind ns name : String) : String := kind ++ " " ++ ns ++ "/" ++ name

/-- The artifact in a source object, if it has one with an address. -/
def artifactOfSource (source : String) (object : Json) : Except SourceError (Option Artifact) :=
  match (object.field? "status").bind (·.field? "artifact") with
  | none | some .null => .ok none
  | some raw =>
    match Artifact.decode raw with
    | .error e => .error (.decode source e.message)
    | .ok artifact => .ok (if artifact.url.isEmpty then none else some artifact)

end StackSync

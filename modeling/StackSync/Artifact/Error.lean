/-!
# Why a template could not be had
-/

namespace StackSync

inductive ArtifactError where
  | http (url detail : String)
  | status (url : String) (code : Nat)
  | digestMismatch (expected actual : String)
  | missingDigest
  | unsupportedDigest (digest : String)
  | extract (detail : String)
  | invalidPath (path reason : String)
  | read (path detail : String)
  deriving DecidableEq, Repr

def ArtifactError.message : ArtifactError → String
  | .http url detail => "failed to download artifact from " ++ url ++ ": " ++ detail
  | .status url code =>
    "failed to download artifact from " ++ url ++ ": HTTP status " ++ toString code
  | .digestMismatch expected actual =>
    "artifact digest mismatch: expected " ++ expected ++ ", computed " ++ actual
  | .missingDigest => "artifact advertises neither a digest nor a checksum"
  | .unsupportedDigest digest => "unsupported artifact digest '" ++ digest ++ "'"
  | .extract detail => "failed to extract artifact: " ++ detail
  | .invalidPath path reason => "invalid template path '" ++ path ++ "': " ++ reason
  | .read path detail => "failed to read template '" ++ path ++ "': " ++ detail

end StackSync

import StackSync.Artifact.Basic
import StackSync.Artifact.Error
import StackSync.Digest.Basic
import StackSync.Text.Cut

/-!
# The digest an artifact must have

A digest names its algorithm; a checksum, which counts only where there is no digest, is a SHA-256. A digest
that cannot be used is refused, even if there is a checksum beside it.
-/

namespace StackSync

structure ArtifactDigest where
  algorithm : Digest.Algorithm
  /-- In lower case. -/
  hex : String
  deriving DecidableEq, Repr

namespace ArtifactDigest

def text (e : ArtifactDigest) : String := e.algorithm.name ++ ":" ++ e.hex

def parse (digest : String) : Except ArtifactError ArtifactDigest :=
  match Text.cut? ':' digest.toList with
  | none => .error (.unsupportedDigest digest)
  | some (name, hex) =>
    match Digest.Algorithm.ofName? (String.ofList name) with
    | none => .error (.unsupportedDigest digest)
    | some algorithm => .ok ⟨algorithm, Text.toAsciiLower (String.ofList hex)⟩

end ArtifactDigest

def nonEmpty? (s : Option String) : Option String := s.filter (!·.isEmpty)

def Artifact.requiredDigest (a : Artifact) : Except ArtifactError ArtifactDigest :=
  match nonEmpty? a.digest, nonEmpty? a.checksum with
  | some digest, _ => ArtifactDigest.parse digest
  | none, some sum => .ok ⟨.sha256, Text.toAsciiLower sum⟩
  | none, none => .error .missingDigest

end StackSync

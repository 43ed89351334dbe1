import StackSync.Digest.Sha256
import StackSync.Digest.Sha512
import StackSync.Text.Hex

/-!
# Digests of published artifacts

An artifact is advertised with the digest of its bytes under one of three algorithms.
-/

namespace StackSync.Digest

inductive Algorithm where
  | sha256
  | sha384
  | sha512
  deriving DecidableEq, Repr

namespace Algorithm

def name : Algorithm → String
  | .sha256 => "sha256"
  | .sha384 => "sha384"
  | .sha512 => "sha512"

def ofName? : String → Option Algorithm
  | "sha256" => some .sha256
  | "sha384" => some .sha384
  | "sha512" => some .sha512
  | _ => none

theorem ofName?_name (a : Algorithm) : ofName? a.name = some a := by cases a <;> rfl

def hexDigest (a : Algorithm) (data : ByteArray) : String :=
  let digest := match a with
    | .sha256 => Sha256.sha256 data
    | .sha384 => Sha512.sha384 data
    | .sha512 => Sha512.sha512 data
  Text.hexOfBytes ⟨digest.toArray⟩

end Algorithm

end StackSync.Digest

import StackSync.Artifact.Error
import StackSync.FileTree.Edit
import StackSync.Text.Blank

/-!
# Paths that stay below a root

The path of a template comes from a user and the tree it is looked up in from an archive, so neither is
trusted: the path must be relative and without `..`, and where it leads, links followed, must be a regular file
below the root.
-/

namespace StackSync

namespace InnerPath

def escapes : String := "path escapes the artifact root"

/-- What is wrong with a path before any tree is looked at. -/
def objection? (path : String) : Option String :=
  let trimmed := Text.trim path
  if trimmed.isEmpty then some "path is empty"
  else if isAbsolute (Text.utf8 trimmed) then some "path must be relative"
  else if (pathNames (Text.utf8 trimmed)).contains .above then some escapes
  else none

/-- The location of the regular file that a path names below a root. -/
def locate (t : FileTree) (root : Location) (path : String) : Except ArtifactError Location := do
  if let some reason := objection? path then throw (.invalidPath path reason)
  let root ← (t.canonical root).mapError fun fault => .read (Location.text root) fault.message
  let found ← (t.resolve root (Text.utf8 (Text.trim path))).mapError fun fault => .read path fault.message
  if !root.isPrefixOf found then throw (.invalidPath path escapes)
  match t.node? found with
  | some (.file _) => return found
  | _ => throw (.invalidPath path "path is not a regular file")

end InnerPath

end StackSync

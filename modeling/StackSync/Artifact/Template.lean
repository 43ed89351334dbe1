import StackSync.Archive.Unpack
import StackSync.Artifact.InnerPath

/-!
# The template in an archive

An archive is unpacked into an empty directory of its own, and the template is read from below it.
-/

namespace StackSync

/-- Where archives are unpacked: the file system around a fresh directory, and that directory. -/
structure Workspace where
  surroundings : FileTree
  directory : Location

namespace Workspace

/-- The file system with the directory in it, empty. -/
def tree (w : Workspace) : FileTree := w.surroundings.withDirectories w.directory

end Workspace

def readTemplate (t : FileTree) (l : Location) (path : String) : Except ArtifactError String :=
  match t.node? l with
  | some (.file content) =>
    match String.fromUTF8? content with
    | some text => .ok text
    | none => .error (.read path "template is not valid UTF-8")
  | _ => .error (.read path FileFault.notFound.message)

def templateInArchive (w : Workspace) (archive : ByteArray) (path : String) :
    Except ArtifactError String := do
  let t ← (Archive.Unpack.all w.tree w.directory (Archive.Gzip.decode archive)).mapError
    fun fault => .extract fault.message
  readTemplate t (← InnerPath.locate t w.directory path) path

end StackSync

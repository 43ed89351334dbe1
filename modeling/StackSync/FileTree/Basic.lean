import StackSync.Text.Lossy

/-!
# File trees

A file tree is what an archive is unpacked into: directories, regular files and symbolic links below one root
directory. A location is the list of names from the root to a node, and the root is a directory in every tree.
Names are bytes, which only where they are shown have to be text.
-/

namespace StackSync

abbrev FileName := List UInt8

namespace FileName

/-- The name by which a directory means itself, `.`. -/
def here : FileName := [0x2E]

/-- The name by which a directory means the one it is in, `..`. -/
def above : FileName := [0x2E, 0x2E]

end FileName

/-- The names from the root of the tree to a node. -/
abbrev Location := List FileName

inductive Node where
  | directory
  | file (content : ByteArray)
  /-- A symbolic link with the path it holds. -/
  | link (target : List UInt8)
  deriving Inhabited

structure FileTree where
  /-- Nodes by location, one each. -/
  entries : List (Location × Node)
  deriving Inhabited

namespace FileTree

def empty : FileTree := ⟨[]⟩

def node? (t : FileTree) (l : Location) : Option Node :=
  if l = [] then some .directory else t.entries.lookup l

def insert (t : FileTree) (l : Location) (n : Node) : FileTree :=
  ⟨(l, n) :: t.entries.filter (·.1 ≠ l)⟩

def erase (t : FileTree) (l : Location) : FileTree := ⟨t.entries.filter (·.1 ≠ l)⟩

def isDirectory (t : FileTree) (l : Location) : Bool :=
  match t.node? l with
  | some .directory => true
  | _ => false

/-- Makes a directory of every name on the way that is not there yet. -/
def withDirectories (t : FileTree) (l : Location) : FileTree :=
  (List.range l.length).foldl (fun t i =>
    let here := l.take (i + 1)
    if (t.node? here).isSome then t else t.insert here .directory) t

end FileTree

namespace Location

/-- The absolute path of a location. -/
def path (l : Location) : List UInt8 := 0x2F :: [0x2F].intercalate l

def text (l : Location) : String := Text.ofBytesLossy l.path

end Location

end StackSync

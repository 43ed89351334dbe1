import StackSync.Archive.Tar
import StackSync.FileTree.Edit

/-!
# Unpacking

The members of an archive are put below a directory, one after the other, and its directories last. A member
whose name goes up is skipped. Links may be unpacked, so before a member is written, the directory it goes to
is resolved and must still be below the destination.
-/

namespace StackSync.Archive

inductive UnpackFault where
  /-- The archive cannot be read on. -/
  | unreadable
  /-- A member cannot be written at its place. -/
  | unpack (place : Location)
  /-- A directory on the way to a member cannot be made. -/
  | create (directory : Location)
  | outside (destination : Location)
  | unresolved (fault : FileFault) (directory : Location)
  deriving DecidableEq, Repr

def UnpackFault.message : UnpackFault → String
  | .unreadable => "failed to iterate over archive"
  | .unpack place => "failed to unpack `" ++ Location.text place ++ "`"
  | .create directory => "failed to create `" ++ Location.text directory ++ "`"
  | .outside destination =>
    "trying to unpack outside of destination path: " ++ Location.text destination
  | .unresolved fault directory =>
    fault.message ++ " while canonicalizing " ++ Location.text directory

/-- The names in a member's path; roots and dots count for nothing. They are the bytes of the archive, be they
text or not. -/
def Tar.Member.names (m : Tar.Member) : List FileName :=
  (pathNames m.path).filter fun n => n ≠ [] ∧ n ≠ .here

/-- What a link refers to; other members refer to nothing. -/
def Tar.Member.target (m : Tar.Member) : List UInt8 := m.link.getD []

namespace Unpack

/-- Checks that a location, links followed, is below the destination. -/
def checkInside (t : FileTree) (destination l : Location) : Except UnpackFault Unit := do
  let here ← (t.canonical l).mapError (.unresolved · l)
  let root ← (t.canonical destination).mapError (.unresolved · destination)
  if !root.isPrefixOf here then throw (.outside root)

/-- The directories on the way to a location that are missing, the outermost first. -/
def missing (t : FileTree) (l : Location) : List Location :=
  (((List.range (l.length + 1)).reverse.map (l.take ·)).takeWhile
    fun here => match t.inspect here with
      | .ok _ => false
      | .error _ => true).reverse

/-- Makes the missing directories on the way to a location. -/
def makeDirectories (destination l : Location) (t : FileTree) : Except UnpackFault FileTree :=
  (missing t l).foldlM (fun t here => do
    (checkInside t destination here.dropLast).mapError fun _ => .create l
    (t.addDirectory here).mapError fun _ => .create l) t

def content? (s : Stream) (chunks : List Tar.Chunk) : Option ByteArray :=
  chunks.foldlM (fun acc chunk =>
    match chunk with
    | .data start size => (s.read? start size).map (acc ++ ·)
    | .gap size => some (acc ++ ⟨Array.replicate size 0⟩)) ByteArray.empty

/-- What a hard link refers to: its last name is not followed. -/
def linkSource (t : FileTree) (destination : Location) (target : List UInt8) :
    Except FileFault Location := do
  let names := pathNames target
  let start := if isAbsolute target then [] else destination
  let directory ← t.walk maxLinks start names.dropLast
  return directory ++ [names.getLast?.getD []]

def writeHardLink (t : FileTree) (destination place : Location) (target : List UInt8) :
    Except UnpackFault FileTree := do
  let failed : UnpackFault := .unpack place
  let found ← (t.resolve destination target).mapError fun _ => failed
  if !destination.isPrefixOf found then throw failed
  let source ← (linkSource t destination target).mapError fun _ => failed
  (t.addName source place).mapError fun _ => failed

def write (s : Stream) (m : Tar.Member) (destination place : Location) (t : FileTree) :
    Except UnpackFault FileTree :=
  let failed : UnpackFault := .unpack place
  match m.kind with
  | '5' => (t.addDirectory place).mapError fun _ => failed
  | '1' => if m.target.isEmpty then .error failed else writeHardLink t destination place m.target
  | '2' =>
    if m.target.isEmpty then .error failed
    else
      (match t.addLink place m.target with
        | .error .exists => do (← t.remove place).addLink place m.target
        | result => result).mapError fun _ => failed
  | 'g' | 'x' | 'L' | 'K' => .ok t
  | _ =>
    if !m.isStandard ∧ m.path.getLast? = some 0x2F then
      (t.addDirectory place).mapError fun _ => failed
    else
      match content? s m.chunks with
      | none => .error failed
      | some content => (t.replace place (.file content)).mapError fun _ => failed

def member (s : Stream) (destination : Location) (t : FileTree) (m : Tar.Member) :
    Except UnpackFault FileTree :=
  if m.names.contains .above ∨ m.names.isEmpty then .ok t
  else do
    let place := destination ++ m.names
    let t ← makeDirectories destination place.dropLast t
    checkInside t destination place.dropLast
    write s m destination place t

/-- Later bytes decide only among equal earlier ones, and a longer path comes after its start. -/
def bytesBefore : List UInt8 → List UInt8 → Bool
  | [], _ => true
  | _ :: _, [] => false
  | a :: as, b :: bs => if a = b then bytesBefore as bs else a < b

/-- All members of a stream below a directory: files and links in their order, and directories last, in the
reverse order of their names. -/
def all (t : FileTree) (destination : Location) (s : Stream) : Except UnpackFault FileTree := do
  let (members, fault) := Tar.members s
  let t ← (members.filter (·.kind ≠ '5')).foldlM (member s destination) t
  if fault.isSome then throw .unreadable
  let directories := (members.filter (·.kind = '5')).mergeSort fun a b => bytesBefore b.path a.path
  directories.foldlM (member s destination) t

end Unpack

end StackSync.Archive

import StackSync.FileTree.Basic
import StackSync.Text.Cut

/-!
# Resolving paths

A path is walked name by name from a directory. A dot stays, two dots go up, a link is replaced by its target,
and whatever has a name behind it must be a directory. At most forty links are followed, so every walk ends;
where it ends there is no link left in the location.
-/

namespace StackSync

inductive FileFault where
  | notFound
  | notPermitted
  | exists
  | notDirectory
  | isDirectory
  | nameTooLong
  | tooManyLinks
  | nulCharacter
  deriving DecidableEq, Repr

def FileFault.message : FileFault → String
  | .notFound => "No such file or directory (os error 2)"
  | .notPermitted => "Operation not permitted (os error 1)"
  | .exists => "File exists (os error 17)"
  | .notDirectory => "Not a directory (os error 20)"
  | .isDirectory => "Is a directory (os error 21)"
  | .nameTooLong => "File name too long (os error 36)"
  | .tooManyLinks => "Too many levels of symbolic links (os error 40)"
  | .nulCharacter => "file name contained an unexpected NUL byte"

def maxNameBytes : Nat := 255

def maxPathBytes : Nat := 4095

def maxLinks : Nat := 40

/-- The names of a path; a leading slash makes the first one empty, a final slash the last one. -/
def pathNames (path : List UInt8) : List FileName := Text.pieces 0x2F path

def isAbsolute (path : List UInt8) : Bool := path.head? = some 0x2F

def hasNul (path : List UInt8) : Bool := path.contains 0

/-- Whether a file system takes the name and the path that ends in it. -/
def admits (l : Location) (name : FileName) : Bool :=
  name.length ≤ maxNameBytes && (Location.path (l ++ [name])).length ≤ maxPathBytes

namespace FileTree

/-- Walks the names from a directory, following up to `links` links. -/
def walk (t : FileTree) (links : Nat) (start : Location) (names : List FileName) :
    Except FileFault Location :=
  match names with
  | [] => .ok start
  | name :: rest =>
    if name = [] ∨ name = .here then walk t links start rest
    else if name = .above then walk t links start.dropLast rest
    else if !admits start name then .error .nameTooLong
    else
      match t.node? (start ++ [name]) with
      | none => .error .notFound
      | some .directory => walk t links (start ++ [name]) rest
      | some (.file _) => if rest.isEmpty then .ok (start ++ [name]) else .error .notDirectory
      | some (.link target) =>
        match links with
        | 0 => .error .tooManyLinks
        | links + 1 =>
          walk t links (if isAbsolute target then [] else start) (pathNames target ++ rest)
  termination_by (links, names.length)

def resolve (t : FileTree) (start : Location) (path : List UInt8) : Except FileFault Location :=
  if hasNul path then .error .nulCharacter
  else t.walk maxLinks (if isAbsolute path then [] else start) (pathNames path)

end FileTree

end StackSync

import StackSync.FileTree.Resolve

/-!
# Changing a file tree

Every change names a place: a directory, found by walking the names before the last one, and the last name,
which is not followed if it is a link. Nothing is ever overwritten; what stands in the way has to be removed
first.
-/

namespace StackSync.FileTree

/-- The place a location denotes: its directory with all links resolved, and the last name. -/
def place (t : FileTree) (l : Location) : Except FileFault Location :=
  match l.getLast? with
  | none => .ok []
  | some name =>
    if l.any hasNul then .error .nulCharacter
    else if maxPathBytes < l.path.length then .error .nameTooLong
    else do
      let directory ← t.walk maxLinks [] (l.dropLast ++ [[]])
      if maxNameBytes < name.length then throw .nameTooLong
      return directory ++ [name]

/-- The node at a place, which is not followed if it is a link. -/
def inspect (t : FileTree) (l : Location) : Except FileFault Node := do
  match t.node? (← t.place l) with
  | some n => return n
  | none => throw .notFound

/-- Where a location leads if links are followed. -/
def canonical (t : FileTree) (l : Location) : Except FileFault Location :=
  if l.any hasNul then .error .nulCharacter else t.walk maxLinks [] l

def add (t : FileTree) (l : Location) (n : Node) : Except FileFault FileTree := do
  let place ← t.place l
  if (t.node? place).isSome then throw .exists
  return t.insert place n

def addLink (t : FileTree) (l : Location) (target : List UInt8) : Except FileFault FileTree :=
  if hasNul target then .error .nulCharacter
  else if maxPathBytes < target.length then .error .nameTooLong
  else t.add l (.link target)

def remove (t : FileTree) (l : Location) : Except FileFault FileTree := do
  let place ← t.place l
  match t.node? place with
  | none => throw .notFound
  | some .directory => throw .isDirectory
  | some _ => return t.erase place

/-- Puts a node where a file or a link may stand. -/
def replace (t : FileTree) (l : Location) (n : Node) : Except FileFault FileTree :=
  match t.add l n with
  | .error .exists => do (← t.remove l).add l n
  | result => result

/-- A directory; one that is there already will do, also behind a link. -/
def addDirectory (t : FileTree) (l : Location) : Except FileFault FileTree :=
  match t.add l .directory with
  | .error .exists =>
    match t.canonical l with
    | .ok there => if t.isDirectory there then .ok t else .error .exists
    | .error _ => .error .exists
  | result => result

def addName (t : FileTree) (source l : Location) : Except FileFault FileTree := do
  match ← t.inspect source with
  | .directory => throw .notPermitted
  | n => t.add l n

end StackSync.FileTree

import StackSync.FileTree.Edit

/-!
# Planting a tree

A tree is described by paths below a root, with parents made as they are needed. A path may leave the root.
-/

namespace StackSync.FileTree

/-- Where a path leads if no link is followed. -/
def lexical (root : Location) (path : List UInt8) : Location :=
  (pathNames path).foldl
    (fun (l : Location) (name : FileName) =>
      if name = [] ∨ name = .here then l else if name = .above then l.dropLast else l ++ [name])
    root

/-- Puts a node where a path leads, unless the place is taken. -/
def plant (t : FileTree) (root : Location) (path : List UInt8) (n : Node) : FileTree :=
  let l := lexical root path
  let t := t.withDirectories l.dropLast
  match t.place l with
  | .ok place => if (t.node? place).isSome then t else t.insert place n
  | .error _ => t

end StackSync.FileTree

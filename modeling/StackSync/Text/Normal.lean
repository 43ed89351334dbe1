import StackSync.Text.Combining
import StackSync.Text.Composite

/-!
# The composed form of a text

Texts that look the same are written in one form: composites are taken apart, marks on one character are put
in the order of their classes, and what can be composed is. A mark is composed with the character before it
unless a mark of its own class or a higher one stands between.
-/

namespace StackSync.Text

/-- No composite has more than this many parts. -/
def maxParts : Nat := 4

def decomposed (s : List Char) : List Char :=
  (List.range maxParts).foldl (fun s _ => s.flatMap Composite.parts) s

/-- Puts a character before a text whose marks are in order. -/
def insertMark (c : Char) : List Char → List Char
  | [] => [c]
  | d :: rest =>
    if Combining.classOf d ≠ 0 ∧ Combining.classOf d < Combining.classOf c then d :: insertMark c rest
    else c :: d :: rest

def ordered (s : List Char) : List Char := s.foldr insertMark []

/-- Composes a text onto a character and the marks that stay on it, the last one first. -/
def composeOnto (base : Char) (marks : List Char) : List Char → List Char
  | [] => base :: marks.reverse
  | c :: rest =>
    let isBlocked := marks.head?.any fun m => Combining.classOf c ≤ Combining.classOf m
    match (if isBlocked then none else Composite.of? base c) with
    | some composite => composeOnto composite marks rest
    | none =>
      if Combining.classOf c = 0 then base :: marks.reverse ++ composeOnto c [] rest
      else composeOnto base (c :: marks) rest

def composed : List Char → List Char
  | [] => []
  | c :: rest => if Combining.classOf c = 0 then composeOnto c [] rest else c :: composed rest

def normalForm (s : List Char) : List Char := composed (ordered (decomposed s))

end StackSync.Text

import StackSync.Text.Direction
import StackSync.Text.Joining
import StackSync.Text.Normal
import StackSync.Url.HostCharacter
import StackSync.Url.Punycode

/-!
# Labels of a domain

A label is the text between two dots. One with characters above ASCII is sent in a form that starts with a
mark, and a label that comes with the mark must be such a form: of a text in its one way of writing, that needs
the form. Marks cannot start a label, joiners stand only where letters join, and a domain with letters that run
to the left has rules for all its labels.
-/

namespace StackSync.Url

open Text

/-- What a label above ASCII starts with. -/
def asciiMark : List Char := "xn--".toList

def isAscii (s : List Char) : Bool := s.all fun c => c.toNat < 0x80

structure Label where
  text : List Char
  ascii : List Char
  deriving DecidableEq, Repr

namespace Label

/-- A joiner between letters that would join: the characters before it are given in reverse. -/
def joins (before behind : List Char) : Bool :=
  let first? := fun (s : List Char) => (s.filterMap fun c =>
    match Joining.of? c with
    | some .transparent => none
    | j => some j).head?
  (first? before == some (some .behind) || first? before == some (some .both)) &&
    (first? behind == some (some .before) || first? behind == some (some .both))

/-- Whether every joiner behind these characters, given in reverse, may stand where it does. -/
def joinersFit (before : List Char) : List Char → Bool
  | [] => true
  | c :: rest =>
    let silenced := before.head?.any Combining.silencesVowel
    (if c = '\u200C' then silenced || joins before rest
      else if c = '\u200D' then silenced
      else true) && joinersFit (c :: before) rest

/-- What every label that is not ASCII must be. -/
def isFit (s : List Char) : Bool :=
  !(s.head?.any Combining.isMark) && joinersFit [] s

/-- A text that stands for itself, in its one form. -/
def isCanonical (s : List Char) : Bool :=
  s.all (fun c => hostForm? c == some [c]) && normalForm s == s

def of? (s : List Char) : Option Label :=
  if asciiMark.isPrefixOf s then do
    let form := s.drop asciiMark.length
    if !isAscii form ∨ form.getLast? = some '-' then none
    let text ← Punycode.decode? form
    if isAscii text ∨ !isCanonical text ∨ !isFit text then none
    return ⟨text, s⟩
  else if isAscii s then some ⟨s, s⟩
  else if isFit s then some ⟨s, asciiMark ++ Punycode.encode s⟩
  else none

/-- Whether a domain with this label in it has to keep the rules on directions. -/
def runsLeft (l : Label) : Bool :=
  l.text.any fun c => Direction.of c = .leftward ∨ Direction.of c = .arabicDigit

/-- The directions of a label, without the marks at its end. -/
def directions (l : Label) : List Direction :=
  ((l.text.map Direction.of).reverse.dropWhile (· = .mark)).reverse

/-- The rule on directions: a label runs the way its first character does, and ends that way or in digits. -/
def keepsDirection (l : Label) : Bool :=
  let ds := l.directions
  match ds.head?, ds.getLast? with
  | some .rightward, some last =>
    (last = .rightward ∨ last = .digit) &&
      ds.all fun d => d = .rightward ∨ d = .digit ∨ d = .neutral ∨ d = .mark
  | some .leftward, some last =>
    (last = .leftward ∨ last = .digit ∨ last = .arabicDigit) &&
      (ds.all fun d => d ≠ .rightward ∧ d ≠ .other) &&
      !(ds.contains .digit && ds.contains .arabicDigit)
  | some _, _ => false
  | none, _ => l.text.isEmpty

end Label

end StackSync.Url

import StackSync.Text.Hex

/-!
# Percent encoding

A part of a URL holds most ASCII characters as they are. The others, and all non-ASCII ones, stand as the
bytes of their UTF-8 form, each as `%` and two digits. Which ASCII characters are escaped depends on the part;
the sets grow from the fragment to the user information.
-/

namespace StackSync.Url

def isControl (c : Char) : Bool := c.toNat < 0x20 || c.toNat == 0x7F

def escapedInFragment (c : Char) : Bool := isControl c || [' ', '"', '<', '>', '\x60'].contains c

def escapedInPath (c : Char) : Bool :=
  escapedInFragment c || ['#', '?', '\x7b', '\x7d'].contains c

def escapedInUserInfo (c : Char) : Bool :=
  escapedInPath c || ['/', ':', ';', '=', '@', '[', '\\', ']', '^', '|'].contains c

def escapedInQuery (c : Char) : Bool := isControl c || [' ', '"', '#', '<', '>'].contains c

/-- In a URL of a special scheme the query has no apostrophe either. -/
def escapedInSpecialQuery (c : Char) : Bool := escapedInQuery c || c == '\''

def escapeByte (b : UInt8) : List Char :=
  let upper := fun n => if n < 10 then Char.ofNat (48 + n) else Char.ofNat (55 + n)
  ['%', upper (b.toNat / 16), upper (b.toNat % 16)]

/-- A character as it stands in a part of a URL. -/
def escapeChar (escaped : Char → Bool) (c : Char) : List Char :=
  if c.toNat < 0x80 && !escaped c then [c]
  else (String.singleton c).toUTF8.toList.flatMap escapeByte

def escape (escaped : Char → Bool) (s : List Char) : String :=
  String.ofList (s.flatMap (escapeChar escaped))

/-- Bytes with every `%` that two digits follow replaced by the byte they denote. -/
def unescapeBytes : List UInt8 → List UInt8
  | 0x25 :: a :: b :: rest =>
    match Text.hexValue? (Char.ofNat a.toNat), Text.hexValue? (Char.ofNat b.toNat) with
    | some x, some y => (16 * x + y).toUInt8 :: unescapeBytes rest
    | _, _ => 0x25 :: unescapeBytes (a :: b :: rest)
  | c :: rest => c :: unescapeBytes rest
  | [] => []

/-- The text under the escapes, if it is UTF-8. -/
def unescape? (s : List Char) : Option String :=
  String.fromUTF8? ⟨(unescapeBytes (String.ofList s).toUTF8.toList).toArray⟩

end StackSync.Url

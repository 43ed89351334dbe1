import StackSync.Json.Basic
import StackSync.Number.Binary64
import StackSync.Text.Hex
import StackSync.Text.Integer

/-!
# Reading JSON text

A reader of the whole grammar: escapes with surrogate pairs, numbers with fraction and exponent, blanks
between tokens and nothing behind the value. Each step of `value` consumes a character before it recurs, so
the length of the text bounds the recursion and `parse?` never runs out of it.
-/

namespace StackSync.Json

def isSpace (c : Char) : Bool := c == ' ' || c == '\n' || c == '\r' || c == '\t'

def skipSpace (s : List Char) : List Char := s.dropWhile isSpace

def codeUnit? (a b c d : Char) : Option Nat := do
  let a ← Text.hexValue? a
  let b ← Text.hexValue? b
  let c ← Text.hexValue? c
  let d ← Text.hexValue? d
  return ((a * 16 + b) * 16 + c) * 16 + d

def escape? : Char → Option Char
  | '"' => some '"'
  | '\\' => some '\\'
  | '/' => some '/'
  | 'b' => some '\x08'
  | 'f' => some '\x0c'
  | 'n' => some '\n'
  | 'r' => some '\r'
  | 't' => some '\t'
  | _ => none

/-- The characters up to the closing quote, in front of `acc` reversed, and the text behind it. -/
def stringBody (acc : List Char) : List Char → Option (String × List Char)
  | '"' :: rest => some (String.ofList acc.reverse, rest)
  | '\\' :: 'u' :: a :: b :: c :: d :: rest =>
    match codeUnit? a b c d with
    | none => none
    | some high =>
      if 0xD800 ≤ high ∧ high < 0xDC00 then
        match rest with
        | '\\' :: 'u' :: e :: f :: g :: h :: rest =>
          match codeUnit? e f g h with
          | some low =>
            if 0xDC00 ≤ low ∧ low < 0xE000 then
              stringBody (Char.ofNat (0x10000 + (high - 0xD800) * 1024 + (low - 0xDC00)) :: acc) rest
            else none
          | none => none
        | _ => none
      else if 0xDC00 ≤ high ∧ high < 0xE000 then none
      else stringBody (Char.ofNat high :: acc) rest
  | '\\' :: c :: rest =>
    match escape? c with
    | some c => stringBody (c :: acc) rest
    | none => none
  | c :: rest => if c.toNat < 32 then none else stringBody (c :: acc) rest
  | [] => none

/-- A digit run that is not empty, and the text behind it. -/
def digits? (s : List Char) : Option (List Char × List Char) :=
  match s.takeWhile Text.isDigit with
  | [] => none
  | ds => some (ds, s.dropWhile Text.isDigit)

/-- The exponent behind an `e`, if there is one. -/
def exponent? : List Char → Option (Option Int × List Char)
  | 'e' :: rest | 'E' :: rest =>
    let (negative, rest) := match rest with
      | '-' :: rest => (true, rest)
      | '+' :: rest => (false, rest)
      | rest => (false, rest)
    (digits? rest).map fun (ds, rest) =>
      let n : Int := Text.digitsValue ds
      (some (if negative then -n else n), rest)
  | rest => some (none, rest)

def fraction? : List Char → Option (Option (List Char) × List Char)
  | '.' :: rest => (digits? rest).map fun (ds, rest) => (some ds, rest)
  | rest => some (none, rest)

/-- A number that is no 64-bit integer; a value past the range of doubles is refused. -/
def ofDecimal? (negative : Bool) (digits : Nat) (exponent : Int) : Option Json :=
  match Binary64.ofScientific digits exponent with
  | .finite units => some (.real negative units)
  | .infinite => none

/-- The value of a number with these parts: digits alone are an integer where a word holds it, and minus
zero is no integer. -/
def ofParts? (negative : Bool) (whole : List Char) (fraction : Option (List Char))
    (exponent : Option Int) : Option Json :=
  let n := Text.digitsValue whole
  match fraction, exponent with
  | none, none =>
    if !negative && n < UInt64.size then some (.integer n)
    else if negative && 0 < n && n ≤ 1 <<< 63 then some (.integer (-(n : Int)))
    else ofDecimal? negative n 0
  | _, _ =>
    let fraction := fraction.getD []
    ofDecimal? negative (Text.digitsValue (whole ++ fraction))
      (exponent.getD 0 - (fraction.length : Int))

def number? (s : List Char) : Option (Json × List Char) := do
  let (negative, s) := match s with
    | '-' :: rest => (true, rest)
    | s => (false, s)
  let (whole, s) ← digits? s
  if whole.head? = some '0' ∧ 1 < whole.length then none
  let (fraction, s) ← fraction? s
  let (exponent, s) ← exponent? s
  let value ← ofParts? negative whole fraction exponent
  return (value, s)

mutual

/-- A value at the start of the text, and the text behind it. -/
def value : Nat → List Char → Option (Json × List Char)
  | 0, _ => none
  | fuel + 1, s =>
    match skipSpace s with
    | 'n' :: 'u' :: 'l' :: 'l' :: rest => some (.null, rest)
    | 't' :: 'r' :: 'u' :: 'e' :: rest => some (.bool true, rest)
    | 'f' :: 'a' :: 'l' :: 's' :: 'e' :: rest => some (.bool false, rest)
    | '"' :: rest => (stringBody [] rest).map fun (text, rest) => (.string text, rest)
    | '[' :: rest =>
      match skipSpace rest with
      | ']' :: rest => some (.array [], rest)
      | rest => items fuel [] rest
    | '\x7b' :: rest =>
      match skipSpace rest with
      | '\x7d' :: rest => some (.object [], rest)
      | rest => fields fuel [] rest
    | s => number? s

def items : Nat → List Json → List Char → Option (Json × List Char)
  | 0, _, _ => none
  | fuel + 1, acc, s =>
    match value fuel s with
    | none => none
    | some (item, rest) =>
      match skipSpace rest with
      | ',' :: rest => items fuel (item :: acc) rest
      | ']' :: rest => some (.array (item :: acc).reverse, rest)
      | _ => none

def fields : Nat → Fields → List Char → Option (Json × List Char)
  | 0, _, _ => none
  | fuel + 1, acc, s =>
    match skipSpace s with
    | '"' :: rest =>
      match stringBody [] rest with
      | none => none
      | some (key, rest) =>
        match skipSpace rest with
        | ':' :: rest =>
          match value fuel rest with
          | none => none
          | some (item, rest) =>
            match skipSpace rest with
            | ',' :: rest => fields fuel (Fields.insert key item acc) rest
            | '\x7d' :: rest => some (.object (Fields.insert key item acc), rest)
            | _ => none
        | _ => none
    | _ => none

end

/-- The value that the whole text denotes. -/
def parse? (text : String) : Option Json :=
  let s := text.toList
  match value (s.length + 1) s with
  | some (v, rest) => if (skipSpace rest).isEmpty then some v else none
  | none => none

end StackSync.Json

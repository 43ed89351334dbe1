/-!
# Reading integers

A number in a setting or a port is a non-empty run of ASCII digits, with at most one `+` before it. Leading
zeros do not count, blanks and signs of any other kind are refused, and so is a value above the bound.
-/

namespace StackSync.Text

def isDigit (c : Char) : Bool := '0' ≤ c && c ≤ '9'

def digitValue (c : Char) : Nat := c.toNat - 48

def digitsValue (s : List Char) : Nat := s.foldl (fun n c => 10 * n + digitValue c) 0

/-- A non-empty run of digits and nothing else. -/
def readDigits? (s : List Char) : Option Nat :=
  if s.isEmpty || !s.all isDigit then none else some (digitsValue s)

/-- A number not above `bound`, with an optional `+` before it. -/
def readNat? (bound : Nat) (s : String) : Option Nat :=
  let digits := match s.toList with
    | '+' :: rest => rest
    | cs => cs
  (readDigits? digits).filter (· ≤ bound)

end StackSync.Text

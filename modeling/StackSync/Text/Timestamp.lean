import StackSync.Text.Blank
import StackSync.Text.Integer

/-!
# Timestamps

A deletion mark is a date and time of day with an offset, `2026-01-01T00:00:00Z`. Only whether it can be
read matters here, and why not; blanks before a number and between its parts are allowed.
-/

namespace StackSync.Text.Timestamp

inductive Fault where
  | tooShort
  | tooLong
  | invalid
  | outOfRange
  deriving DecidableEq, Repr

def Fault.message : Fault → String
  | .tooShort => "premature end of input"
  | .tooLong => "trailing input"
  | .invalid => "input contains invalid characters"
  | .outOfRange => "input is out of range"

/-- A reader keeps the text that is left. -/
abbrev Reader := StateT (List Char) (Except Fault)

def skipBlanks : Reader Unit := modify trimStart

/-- At least one and at most `width` digits. -/
def number (width : Nat) : Reader Nat := do
  match ← get with
  | [] => throw .tooShort
  | s =>
    match (s.take width).takeWhile isDigit with
    | [] => throw .invalid
    | ds => do
      set (s.drop ds.length)
      return digitsValue ds

/-- A number between bounds, with blanks before it. -/
def field (width low high : Nat) : Reader Nat := do
  skipBlanks
  let n ← number width
  if low ≤ n ∧ n ≤ high then return n else throw .outOfRange

def mark (c : Char) : Reader Unit := do
  skipBlanks
  match ← get with
  | [] => throw .tooShort
  | d :: rest => if d = c then set rest else throw .invalid

/-- A year of up to four digits, or of any number of digits behind a sign. -/
def year : Reader Int := do
  skipBlanks
  let s ← get
  let (sign, width) : Int × Nat := match s with
    | '-' :: _ => (-1, s.length)
    | '+' :: _ => (1, s.length)
    | _ => (1, 4)
  if width ≠ 4 ∨ sign < 0 then set (s.drop 1)
  let n ← number width
  if n < 1 <<< 31 then return sign * n else throw .outOfRange

/-- The days of a month, by the Gregorian rule for leap years. -/
def daysIn (year : Int) (month : Nat) : Nat :=
  if month = 2 then
    if year % 4 = 0 ∧ (year % 100 ≠ 0 ∨ year % 400 = 0) then 29 else 28
  else if month = 4 ∨ month = 6 ∨ month = 9 ∨ month = 11 then 30 else 31

def fraction : Reader Unit := do
  match ← get with
  | '.' :: rest => do
    set rest
    let _ ← number 9
    modify (·.dropWhile isDigit)
  | _ => return ()

def twoDigits : Reader Nat := do
  match ← get with
  | a :: b :: rest =>
    if isDigit a && isDigit b then do
      set rest
      return digitsValue [a, b]
    else throw .invalid
  | _ => throw .tooShort

/-- `Z`, `UTC`, or a sign with hours and minutes. -/
def offset : Reader Unit := do
  skipBlanks
  let s ← get
  if (s.take 3).map Char.toUpper = ['U', 'T', 'C'] then set (s.drop 3)
  else
    match s with
    | [] => throw .tooShort
    | c :: rest =>
      if c = 'Z' ∨ c = 'z' then set rest
      else if c = '+' ∨ c = '-' ∨ c = '−' then do
        set rest
        let hours ← twoDigits
        modify (·.dropWhile fun c => c == ':' || isBlank c)
        let minutes ← twoDigits
        if 59 < minutes ∨ 23 < hours then throw .outOfRange
      else throw .invalid

def dateTime : Reader Unit := do
  let y ← year
  mark '-'
  let month ← field 2 1 12
  mark '-'
  let day ← field 2 1 31
  match ← get with
  | [] => throw .tooShort
  | c :: rest => if c = 't' ∨ c = 'T' ∨ c = ' ' then set rest else throw .invalid
  let _ ← field 2 0 23
  mark ':'
  let _ ← field 2 0 59
  mark ':'
  let _ ← field 2 0 60
  fraction
  offset
  skipBlanks
  if !(← get).isEmpty then throw .tooLong
  if daysIn y month < day then throw .outOfRange

def check (s : String) : Except Fault Unit := (dateTime.run s.toList).map (·.1)

end StackSync.Text.Timestamp

import StackSync.Json.Basic
import StackSync.Number.Shortest
import StackSync.Text.Quoted

/-!
# Decoding JSON values into records

A record is read from an object by its field names, or from an array by the positions of its fields. The
fields of an object are read in the order of their keys and the first value of a wrong type is the answer;
only then are required fields missed, in the order of their declaration. Unknown fields are skipped. An
array that ends early is refused at the first field that has no default, a longer one in the end.
-/

namespace StackSync.Json

inductive DecodeError where
  | wrongType (found : Json) (expected : String)
  | wrongValue (found : Json) (expected : String)
  | missingField (name : String)
  | unknownVariant (name : String) (known : List String)
  | shortArray (length : Nat) (expected : String)
  | longArray (length : Nat)
  /-- A text that is not what it should denote. -/
  | malformed (reason : String)
  deriving DecidableEq, Repr

def shape : Json → String
  | .null => "null"
  | .bool b => "boolean `" ++ (if b then "true" else "false") ++ "`"
  | .integer i => "integer `" ++ toString i ++ "`"
  | .real negative units => "floating point `" ++ Binary64.text negative units ++ "`"
  | .string s => "string " ++ Text.quoted s
  | .array _ => "sequence"
  | .object _ => "map"

def DecodeError.message : DecodeError → String
  | .wrongType found expected => "invalid type: " ++ shape found ++ ", expected " ++ expected
  | .wrongValue found expected => "invalid value: " ++ shape found ++ ", expected " ++ expected
  | .missingField name => "missing field `" ++ name ++ "`"
  | .unknownVariant name known =>
    "unknown variant `" ++ name ++ "`, expected one of " ++
      ", ".intercalate (known.map fun k => "`" ++ k ++ "`")
  | .shortArray length expected =>
    "invalid length " ++ toString length ++ ", expected " ++ expected
  | .longArray length =>
    "invalid length " ++ toString length ++ ", expected fewer elements in array"
  | .malformed reason => reason

abbrev Decoded := Except DecodeError

def asString : Json → Decoded String
  | .string s => .ok s
  | v => .error (.wrongType v "a string")

def asBool : Json → Decoded Bool
  | .bool b => .ok b
  | v => .error (.wrongType v "a boolean")

def asInt64 : Json → Decoded Int64
  | .integer i =>
    if Int64.minValue.toInt ≤ i ∧ i ≤ Int64.maxValue.toInt then .ok (Int64.ofInt i)
    else .error (.wrongValue (.integer i) "i64")
  | v => .error (.wrongType v "i64")

def asArray (item : Json → Decoded α) : Json → Decoded (List α)
  | .array items => items.mapM item
  | v => .error (.wrongType v "a sequence")

/-- A value or `null`. -/
def asOptional (item : Json → Decoded α) : Json → Decoded (Option α)
  | .null => .ok none
  | v => some <$> item v

def present? (fields : Fields) (key : String) (item : Json → Decoded α) : Decoded (Option α) :=
  match Fields.get? key fields with
  | none => .ok none
  | some v => some <$> item v

/-- An optional field: absent and `null` are the same. -/
def optional (fields : Fields) (key : String) (item : Json → Decoded α) : Decoded (Option α) :=
  Option.join <$> present? fields key (asOptional item)

/-- A field that has a default; `null` is no way to ask for it. -/
def orDefault (fields : Fields) (key : String) (default : α) (item : Json → Decoded α) : Decoded α :=
  (·.getD default) <$> present? fields key item

/-- A field that must be there, once everything present has been read. -/
def required (name : String) : Option α → Decoded α
  | some v => .ok v
  | none => .error (.missingField name)

/-- Reading fields by position: how many were read, and the items that are left. -/
abbrev Positions := StateT (Nat × List Json) Decoded

namespace Positions

def next? (item : Json → Decoded α) : Positions (Option α) := do
  match ← get with
  | (_, []) => return none
  | (n, v :: rest) =>
    let a ← item v
    set (n + 1, rest)
    return some a

/-- The next item; the array may not end here. -/
def next (expected : String) (item : Json → Decoded α) : Positions α := do
  match ← next? item with
  | some a => return a
  | none => throw (.shortArray (← get).1 expected)

/-- The next item, or the default at the end of the array. -/
def nextOr (default : α) (item : Json → Decoded α) : Positions α := do
  return (← next? item).getD default

end Positions

/-- A record: from an object by names, from an array by positions, from nothing else. -/
def asRecord (name : String) (byName : Fields → Decoded α) (byPosition : Positions α) :
    Json → Decoded α
  | .object fields => byName fields
  | .array items => do
    let (a, (_, rest)) ← byPosition.run (0, items)
    if rest.isEmpty then return a else throw (.longArray items.length)
  | v => .error (.wrongType v ("struct " ++ name))

/-- The phrase for the number of fields that an array of them must have. -/
def withElements (name : String) (n : Nat) : String :=
  "struct " ++ name ++ " with " ++ toString n ++ (if n = 1 then " element" else " elements")

end StackSync.Json

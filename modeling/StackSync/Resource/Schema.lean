import StackSync.Json.Basic

/-!
# Schemas

The shape of a JSON value as an API server is told it: texts, switches, whole numbers, lists, and records whose
fields may be required. A field that may be absent may be null as well, and a switch or a list that is left out
has a value all the same.
-/

namespace StackSync

/-- What it means that a field is left out. -/
inductive Presence where
  | required
  /-- There is no value; null says the same. -/
  | optional
  /-- The value is the default of its shape. -/
  | defaulted
  deriving DecidableEq, Repr, Inhabited

inductive Shape where
  | text
  | choice (values : List String)
  | int64
  /-- A switch that is off unless it is set. -/
  | switch
  | list (item : Shape)
  | record (fields : List (String × Presence × String × Shape))
  deriving Inhabited

namespace Shape

def typed (name : String) : String × Json := ("type", .string name)

def requiredOf (fields : List (String × Presence × String × Shape)) : List String :=
  (fields.filter (·.2.1 = .required)).map (·.1)

/-- What a field says besides its shape: a description, if there is one, and whether null is allowed. -/
def remarks (presence : Presence) (description : String) : List (String × Json) :=
  (if description.isEmpty then [] else [("description", .string description)]) ++
    (if presence = .optional then [("nullable", .bool true)] else [])

/-- The entries of a record that are left out if there are none. -/
def requiredEntry (fields : List (String × Presence × String × Shape)) : List (String × Json) :=
  let names := requiredOf fields
  if names.isEmpty then [] else [("required", .array (names.map .string))]

mutual

def entries : Shape → List (String × Json)
  | .text => [typed "string"]
  | .choice values => [typed "string", ("enum", .array (values.map .string))]
  | .int64 => [typed "integer", ("format", .string "int64")]
  | .switch => [typed "boolean", ("default", .bool false)]
  | .list item => [typed "array", ("items", .record (entries item))]
  | .record fields =>
    [typed "object", ("properties", .record (properties fields))] ++ requiredEntry fields

def properties : List (String × Presence × String × Shape) → List (String × Json)
  | [] => []
  | (name, presence, description, shape) :: rest =>
    (name, .record (remarks presence description ++ entries shape)) :: properties rest

end

end Shape

end StackSync

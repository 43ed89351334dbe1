/-!
# JSON values

Manifests, statuses and API answers are JSON. Whole numbers in the range of 64-bit words are kept apart from
other numbers, because a generation may only be the former. The fields of an object stand in the order of
their keys, each key once (`Fields.insert`), so that equal objects are equal values.
-/

namespace StackSync

inductive Json where
  | null
  | bool (value : Bool)
  | integer (value : Int)
  /-- A number with a point, an exponent or too many digits: a sign and units of 2^-1074. -/
  | real (negative : Bool) (units : Nat)
  | string (value : String)
  | array (items : List Json)
  | object (fields : List (String × Json))
  deriving Inhabited, Repr

namespace Json

mutual

/-- Equality of values is decided by walking both. -/
def decEq : (a b : Json) → Decidable (a = b)
  | .null, .null => isTrue rfl
  | .bool a, .bool b =>
    if h : a = b then isTrue (by rw [h]) else isFalse fun e => h (Json.bool.inj e)
  | .integer a, .integer b =>
    if h : a = b then isTrue (by rw [h]) else isFalse fun e => h (Json.integer.inj e)
  | .real s a, .real t b =>
    if h : s = t ∧ a = b then isTrue (by rw [h.1, h.2])
    else isFalse fun e => h (Json.real.inj e)
  | .string a, .string b =>
    if h : a = b then isTrue (by rw [h]) else isFalse fun e => h (Json.string.inj e)
  | .array a, .array b =>
    match decEqItems a b with
    | isTrue h => isTrue (by rw [h])
    | isFalse h => isFalse fun e => h (Json.array.inj e)
  | .object a, .object b =>
    match decEqFields a b with
    | isTrue h => isTrue (by rw [h])
    | isFalse h => isFalse fun e => h (Json.object.inj e)
  | .null, .bool _ | .null, .integer _ | .null, .real .. | .null, .string _ | .null, .array _
  | .null, .object _ => isFalse nofun
  | .bool _, .null | .bool _, .integer _ | .bool _, .real .. | .bool _, .string _
  | .bool _, .array _ | .bool _, .object _ => isFalse nofun
  | .integer _, .null | .integer _, .bool _ | .integer _, .real .. | .integer _, .string _
  | .integer _, .array _ | .integer _, .object _ => isFalse nofun
  | .real .., .null | .real .., .bool _ | .real .., .integer _ | .real .., .string _
  | .real .., .array _ | .real .., .object _ => isFalse nofun
  | .string _, .null | .string _, .bool _ | .string _, .integer _ | .string _, .real ..
  | .string _, .array _ | .string _, .object _ => isFalse nofun
  | .array _, .null | .array _, .bool _ | .array _, .integer _ | .array _, .real ..
  | .array _, .string _ | .array _, .object _ => isFalse nofun
  | .object _, .null | .object _, .bool _ | .object _, .integer _ | .object _, .real ..
  | .object _, .string _ | .object _, .array _ => isFalse nofun

def decEqItems : (a b : List Json) → Decidable (a = b)
  | [], [] => isTrue rfl
  | [], _ :: _ => isFalse nofun
  | _ :: _, [] => isFalse nofun
  | a :: as, b :: bs =>
    match decEq a b, decEqItems as bs with
    | isTrue h, isTrue t => isTrue (by rw [h, t])
    | isFalse h, _ => isFalse fun e => h (List.cons.inj e).1
    | _, isFalse t => isFalse fun e => t (List.cons.inj e).2

def decEqFields : (a b : List (String × Json)) → Decidable (a = b)
  | [], [] => isTrue rfl
  | [], _ :: _ => isFalse nofun
  | _ :: _, [] => isFalse nofun
  | (k, a) :: as, (l, b) :: bs =>
    if hk : k = l then
      match decEq a b, decEqFields as bs with
      | isTrue h, isTrue t => isTrue (by rw [hk, h, t])
      | isFalse h, _ => isFalse fun e => h (Prod.mk.inj (List.cons.inj e).1).2
      | _, isFalse t => isFalse fun e => t (List.cons.inj e).2
    else isFalse fun e => hk (Prod.mk.inj (List.cons.inj e).1).1

end

instance : DecidableEq Json := decEq

end Json

abbrev Fields := List (String × Json)

namespace Fields

def get? (key : String) : Fields → Option Json
  | [] => none
  | (k, v) :: rest => if k = key then some v else get? key rest

/-- Puts a field at its place in the order of keys; a field of the same key gives way. -/
def insert (key : String) (value : Json) : Fields → Fields
  | [] => [(key, value)]
  | (k, v) :: rest =>
    if key < k then (key, value) :: (k, v) :: rest
    else if key = k then (key, value) :: rest
    else (k, v) :: insert key value rest

def erase (key : String) (fields : Fields) : Fields := fields.filter (·.1 ≠ key)

def ofList (fields : List (String × Json)) : Fields :=
  fields.foldl (fun acc (k, v) => insert k v acc) []

theorem get?_insert (key k : String) (value : Json) (fields : Fields) :
    get? k (insert key value fields) = if key = k then some value else get? k fields := by
  induction fields with
  | nil => simp [insert, get?]
  | cons field rest ih =>
    obtain ⟨l, v⟩ := field
    simp only [insert]
    split
    · simp [get?]
    · split
      · next h => subst h; simp only [get?]; split <;> rfl
      · next h =>
        simp only [get?, ih]
        split
        · next hl => subst hl; simp [h]
        · rfl

end Fields

namespace Json

def record (fields : List (String × Json)) : Json := .object (Fields.ofList fields)

/-- An object with those of the fields that have a value. -/
def recordOf (fields : List (String × Option Json)) : Json :=
  record (fields.filterMap fun (k, v) => v.map (k, ·))

def field? (key : String) : Json → Option Json
  | .object fields => Fields.get? key fields
  | _ => none

def ofOption (value : Option Json) : Json := value.getD .null

end Json

end StackSync

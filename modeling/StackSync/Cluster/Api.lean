import StackSync.Json.Decode
import StackSync.Resource.Basic

/-!
# The API of a cluster

Objects have paths, and a request is a method on a path. What can go wrong with one is a response that says so,
a response that cannot be read, or a name that makes no path.
-/

namespace StackSync.Cluster

inductive Method where
  | get
  | patch
  | post
  deriving DecidableEq, Repr, Inhabited

def Method.text : Method → String
  | .get => "GET"
  | .patch => "PATCH"
  | .post => "POST"

structure Resource where
  kind : String
  api : String
  collection : String
  deriving DecidableEq, Repr, Inhabited

namespace Resource

def stack : Resource :=
  ⟨"CloudFormationStack", "cloudformation.contrib.fluxcd.io/v1alpha1", "cloudformationstacks"⟩

def sourceApi : String := "source.toolkit.fluxcd.io/v1"

def sources : List Resource := [
  ⟨"GitRepository", sourceApi, "gitrepositories"⟩, ⟨"Bucket", sourceApi, "buckets"⟩,
  ⟨"OCIRepository", sourceApi, "ocirepositories"⟩]

def ofKind? (kind : String) : Option Resource := (stack :: sources).find? (·.kind == kind)

def collectionPath (r : Resource) (ns : String) : String :=
  "/apis/" ++ r.api ++ "/namespaces/" ++ ns ++ "/" ++ r.collection

def path (r : Resource) (ns name : String) : String := r.collectionPath ns ++ "/" ++ name

end Resource

/-- What the server says of a request that failed. -/
structure ErrorResponse where
  status : String
  message : String
  reason : String
  code : Nat
  deriving DecidableEq, Repr, Inhabited

inductive ApiError where
  | response (r : ErrorResponse)
  /-- A response that is not the object it should be. -/
  | unreadable (detail : String)
  | unnamed
  /-- A name with a character that paths do not have. -/
  | unusableName
  deriving DecidableEq, Repr

namespace ErrorResponse

def described (r : ErrorResponse) : String :=
  "ErrorResponse \x7b status: " ++ Text.quoted r.status ++ ", message: " ++ Text.quoted r.message ++
    ", reason: " ++ Text.quoted r.reason ++ ", code: " ++ toString r.code ++ " \x7d"

def decode? (body : Json) : Option ErrorResponse :=
  let text := fun name => match body.field? name with
    | none => some ""
    | some (.string s) => some s
    | some _ => none
  match body.field? "status", body.field? "code", text "message", text "reason" with
  | some (.string status), some (.integer code), some message, some reason =>
    if 0 ≤ code ∧ code < UInt16.size then some ⟨status, message, reason, code.toNat⟩ else none
  | _, _, _, _ => none

end ErrorResponse

namespace ApiError

def message : ApiError → String
  | .response r => "ApiError: " ++ r.message ++ ": " ++ r.reason ++ " (" ++ r.described ++ ")"
  | .unreadable detail => "Error deserializing response: " ++ detail
  | .unnamed => "Failed to build request: failed to validate request: A non-empty name is required"
  | .unusableName => "Failed to build request: failed to build request: invalid uri character"

def isAbsence : ApiError → Bool
  | .response r => r.reason == "NotFound"
  | _ => false

def hasCode (code : Nat) : ApiError → Bool
  | .response r => r.code == code
  | _ => false

end ApiError

/-- The phrases of statuses that report an error. -/
def statusPhrases : List (Nat × String) := [
  (400, "Bad Request"), (401, "Unauthorized"), (402, "Payment Required"), (403, "Forbidden"),
  (404, "Not Found"), (405, "Method Not Allowed"), (406, "Not Acceptable"),
  (407, "Proxy Authentication Required"), (408, "Request Timeout"), (409, "Conflict"), (410, "Gone"),
  (411, "Length Required"), (412, "Precondition Failed"), (413, "Payload Too Large"),
  (414, "URI Too Long"), (415, "Unsupported Media Type"), (416, "Range Not Satisfiable"),
  (417, "Expectation Failed"), (418, "I'm a teapot"), (421, "Misdirected Request"),
  (422, "Unprocessable Entity"), (423, "Locked"), (424, "Failed Dependency"), (425, "Too Early"),
  (426, "Upgrade Required"), (428, "Precondition Required"), (429, "Too Many Requests"),
  (431, "Request Header Fields Too Large"), (451, "Unavailable For Legal Reasons"),
  (500, "Internal Server Error"), (501, "Not Implemented"), (502, "Bad Gateway"),
  (503, "Service Unavailable"), (504, "Gateway Timeout"), (505, "HTTP Version Not Supported"),
  (506, "Variant Also Negotiates"), (507, "Insufficient Storage"), (508, "Loop Detected"),
  (510, "Not Extended"), (511, "Network Authentication Required")]

/-- What is made of a body that is no error response. -/
def unparsedResponse (code : Nat) (body : String) : ErrorResponse where
  status := toString code ++ " " ++ (statusPhrases.lookup code).getD "<unknown status code>"
  message := Text.quoted body
  reason := "Failed to parse error data"
  code := code

def isPathChar (c : Char) : Bool :=
  let n := c.toNat
  n = 0x21 || n = 0x22 || (0x24 ≤ n && n ≤ 0x3B) || n = 0x3D || (0x3F ≤ n && n ≤ 0x5F) ||
    (0x61 ≤ n && n ≤ 0x7E) || 0x80 ≤ n

def requestPath (r : Resource) (ns name : String) : Except ApiError String :=
  if name.isEmpty then .error .unnamed
  else if !(r.path ns name).toList.all isPathChar then .error .unusableName
  else .ok (r.path ns name)

end StackSync.Cluster

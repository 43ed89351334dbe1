import StackSync.Url.Basic

/-!
# Reading URLs

Blanks and controls around a URL, and tabs and line ends in it, are dropped. The scheme decides how the rest is
cut: a special one has an authority after any number of slashes, any other one only after two of them, and a
file may have a drive in place of a host. Dot segments are resolved while the path is read.
-/

namespace StackSync.Url

def isAlpha (c : Char) : Bool := ('a' ≤ c && c ≤ 'z') || ('A' ≤ c && c ≤ 'Z')

def isSchemeChar (c : Char) : Bool := isAlpha c || Text.isDigit c || ['+', '-', '.'].contains c

def prepare (s : String) : List Char :=
  let isEdge := fun c : Char => c.toNat ≤ 0x20
  (((s.toList.dropWhile isEdge).reverse.dropWhile isEdge).reverse).filter
    fun c => c ≠ '\t' ∧ c ≠ '\n' ∧ c ≠ '\x0d'

/-- The scheme in lower case, and the text behind its colon. -/
def scheme? : List Char → Option (String × List Char)
  | [] => none
  | c :: rest =>
    let name := (c :: rest).takeWhile isSchemeChar
    match (c :: rest).drop name.length with
    | ':' :: behind =>
      if isAlpha c then some (String.ofList (name.map Text.asciiLower), behind) else none
    | _ => none

def isSlash (special : Bool) (c : Char) : Bool := c == '/' || (special && c == '\\')

/-- What ends an authority, besides the end of the text. -/
def endsAuthority (special : Bool) (c : Char) : Bool := isSlash special c || c == '?' || c == '#'

/-- A letter and a colon or a bar. -/
def isDriveLetter : List Char → Bool
  | [c, d] => isAlpha c && (d == ':' || d == '|')
  | _ => false

def isSingleDot (s : String) : Bool := [".", "%2e"].contains (Text.toAsciiLower s)

def isDoubleDot (s : String) : Bool :=
  ["..", "%2e%2e", "%2e.", ".%2e"].contains (Text.toAsciiLower s)

/-- The segments without the last one; a drive stays. -/
def dropSegment (done : List String) : List String :=
  if (done.getLast?.map fun s => isDriveLetter s.toList).getD true then done else done.dropLast

/-- The parts of a path between its slashes. -/
def splitPath (special : Bool) : List Char → List (List Char)
  | [] => [[]]
  | c :: rest =>
    if isSlash special c then [] :: splitPath special rest
    else
      match splitPath special rest with
      | [] => [[c]]
      | part :: more => (c :: part) :: more

/-- In a file's path a drive at the start is a segment of its own, with a colon. -/
def driveParts (part : List Char) : List (List Char) :=
  match part with
  | [c, '|'] => if isAlpha c then [[c, ':']] else [part]
  | c :: ':' :: d :: rest => if isAlpha c then [[c, ':'], d :: rest] else [part]
  | _ => [part]

/-- Adds a part to the segments before it; a dot segment at the end leaves an empty segment. -/
def addPart (isLast : Bool) (done : List String) (part : List Char) : List String :=
  let segment := escape escapedInPath part
  if isDoubleDot segment then dropSegment done ++ (if isLast then [""] else [])
  else if isSingleDot segment then done ++ (if isLast then [""] else [])
  else done ++ [segment]

def resolveParts (done : List String) : List (List Char) → List String
  | [] => done
  | [part] => addPart true done part
  | part :: more => resolveParts (addPart false done part) more

def readSegments (special : Bool) (s : List Char) : List String :=
  resolveParts [] (splitPath special s)

/-- Whether the path of a file begins with a drive. -/
def startsWithDrive (s : List Char) : Bool :=
  match splitPath true s with
  | part :: _ => isDriveLetter part
  | [] => false

/-- The segments of a file's path: no empty ones in front. -/
def readFileSegments (s : List Char) : List String :=
  let segments := match splitPath true s with
    | [] => []
    | first :: more =>
      match driveParts first with
      | [drive, rest] =>
        let start := [escape escapedInPath drive, escape escapedInPath rest]
        if more.isEmpty then start else resolveParts start more
      | parts => resolveParts [] (parts ++ more)
  match segments.dropWhile (·.isEmpty) with
  | [] => [""]
  | kept => kept

def dropSlash (special : Bool) : List Char → List Char
  | c :: rest => if isSlash special c then rest else c :: rest
  | [] => []

/-- The path, and the query and fragment behind it. -/
def cutPath (s : List Char) : List Char × Option (List Char) × Option (List Char) :=
  let path := s.takeWhile fun c => c ≠ '?' ∧ c ≠ '#'
  let (beforeFragment, fragment) := match Text.cut? '#' s with
    | some (before, behind) => (before, some behind)
    | none => (s, none)
  (path, (Text.cut? '?' beforeFragment).map (·.2), fragment)

def withTail (u : Url) (query fragment : Option (List Char)) : Url :=
  let inQuery := if isSpecialScheme u.scheme then escapedInSpecialQuery else escapedInQuery
  { u with query := query.map (escape inQuery), fragment := fragment.map (escape escapedInFragment) }

/-- User information as it is written: an empty password is none. -/
def readUserInfo (s : List Char) : String × Option String :=
  match Text.cut? ':' s with
  | none => (escape escapedInUserInfo s, none)
  | some (name, password) =>
    (escape escapedInUserInfo name,
      if password.isEmpty then none else some (escape escapedInUserInfo password))

/-- Host and the text behind it: a colon outside of brackets ends it. -/
def cutHost (inBrackets : Bool) : List Char → List Char × List Char
  | [] => ([], [])
  | c :: rest =>
    if c = ':' ∧ !inBrackets then ([], c :: rest)
    else
      let inside := if c = '[' then true else if c = ']' then false else inBrackets
      let (host, behind) := cutHost inside rest
      (c :: host, behind)

def readPort (s : List Char) : Except UrlError (Option Nat) :=
  if s.isEmpty then .ok none
  else
    match Text.readDigits? s with
    | some n => if n ≤ 65535 then .ok (some n) else .error .invalidPort
    | none => .error .invalidPort

/-- User information, host and port of an authority, and the text behind the port. Only the port of a scheme
that is not special may end in a backslash, which then belongs to the path. -/
def readAuthority (scheme : String) (authority : List Char) (hasMore : Bool) :
    Except UrlError (Url × List Char) := do
  let special := isSpecialScheme scheme
  let (info, hostAndPort) := match Text.cutLast? '@' authority with
    | some (info, rest) => (some info, rest)
    | none => (none, authority)
  let (username, password) := readUserInfo (info.getD [])
  if info = some [] ∧ hostAndPort.isEmpty ∧ hasMore then throw .emptyHost
  let (hostText, afterHost) := cutHost false hostAndPort
  if special ∧ hostText.isEmpty then throw .emptyHost
  let host ← if special then Host.parseSpecial hostText else Host.parsePlain hostText
  if host.isEmpty ∧ !afterHost.isEmpty then throw .emptyHost
  let portText := (afterHost.drop 1).takeWhile (· ≠ '\\')
  let port ← readPort portText
  if host.isEmpty ∧ (!username.isEmpty ∨ password.isSome) then throw .emptyHost
  let url : Url := {
    scheme, username, password, host := some host
    port := if port = defaultPort? scheme then none else port
    path := .segments [], query := none, fragment := none }
  return (url, (afterHost.drop 1).drop portText.length)

/-- A URL with an authority, behind the slashes in front of it. -/
def parseAuthority (scheme : String) (s : List Char) : Except UrlError Url := do
  let special := isSpecialScheme scheme
  let authority := s.takeWhile (!endsAuthority special ·)
  let rest := s.drop authority.length
  let (url, behindPort) ← readAuthority scheme authority (!rest.isEmpty)
  let (path, query, fragment) := cutPath rest
  let path := behindPort ++ path
  let segments :=
    if path.isEmpty then (if special then [""] else [])
    else readSegments special (if behindPort.isEmpty then dropSlash special path else path)
  return withTail { url with path := .segments segments } query fragment

/-- The host of a file: none, if it is empty or this machine. -/
def readFileHost (s : List Char) : Except UrlError Host := do
  if s.isEmpty then return .name ""
  match ← Host.parseSpecial s with
  | .name "localhost" => return .name ""
  | host => return host

def parseFile (s : List Char) : Except UrlError Url := do
  let afterSlashes := fun (host : Host) (rest : List Char) =>
    let (path, query, fragment) := cutPath rest
    let path := dropSlash true path
    let host := if startsWithDrive path then .name "" else host
    withTail {
      scheme := "file", username := "", password := none, host := some host, port := none
      path := .segments (readFileSegments path), query := none, fragment := none } query fragment
  match s with
  | a :: b :: rest =>
    if isSlash true a && isSlash true b then
      let hostText := rest.takeWhile (!endsAuthority true ·)
      if isDriveLetter hostText then return afterSlashes (.name "") rest
      let host ← readFileHost hostText
      return afterSlashes host (rest.drop hostText.length)
    else return afterSlashes (.name "") s
  | _ => return afterSlashes (.name "") s

def parsePlainScheme (scheme : String) (s : List Char) : Except UrlError Url :=
  match s with
  | '/' :: '/' :: rest => parseAuthority scheme rest
  | _ =>
    let (path, query, fragment) := cutPath s
    let readPath := match path with
      | '/' :: rest => Path.segments (readSegments false rest)
      | _ => .rootless (escape isControl path)
    .ok (withTail {
      scheme, username := "", password := none, host := none, port := none, path := readPath
      query := none, fragment := none } query fragment)

def parse (s : String) : Except UrlError Url :=
  match scheme? (prepare s) with
  | none => .error .relativeWithoutBase
  | some ("file", rest) => parseFile rest
  | some (scheme, rest) =>
    if isSpecialScheme scheme then parseAuthority scheme (rest.dropWhile (isSlash true))
    else parsePlainScheme scheme rest

end StackSync.Url

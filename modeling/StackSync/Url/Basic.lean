import StackSync.Url.Address
import StackSync.Url.Domain
import StackSync.Url.Error
import StackSync.Url.Percent

/-!
# URLs

A `Url` is in normal form: scheme and domain in lower case, escapes applied, dot segments gone, a default port
left out. `text` writes it, and nothing else about a URL is ever shown.
-/

namespace StackSync.Url

inductive Host where
  /-- A domain, or the host of a scheme that is not special. -/
  | name (text : String)
  | ipv4 (address : Nat)
  | ipv6 (groups : List Nat)
  deriving DecidableEq, Repr

namespace Host

def text : Host → String
  | .name s => s
  | .ipv4 a => ipv4Text a
  | .ipv6 g => "[" ++ ipv6Text g ++ "]"

def bracketed? (s : List Char) : Option (Except UrlError Host) :=
  if s.head? = some '[' then
    some (if s.getLast? = some ']' then
      match ipv6? (s.drop 1).dropLast with
      | some g => .ok (.ipv6 g)
      | none => .error .invalidIpv6
    else .error .invalidIpv6)
  else none

/-- The host of a special scheme: an address or a domain. -/
def parseSpecial (s : List Char) : Except UrlError Host :=
  match bracketed? s with
  | some result => result
  | none =>
    match (unescape? s).bind fun d => domainToAscii? d.toList with
    | none => .error .invalidDomain
    | some [] => .error .emptyHost
    | some domain =>
      if endsInNumber domain then
        match ipv4? domain with
        | some a => .ok (.ipv4 a)
        | none => .error .invalidIpv4
      else .ok (.name (String.ofList domain))

def forbidden (c : Char) : Bool :=
  ['\x00', '\t', '\n', '\x0d', ' ', '#', '/', ':', '<', '>', '?', '@', '[', '\\', ']', '^',
    '|'].contains c

/-- The host of any other scheme: kept as it is, less what would not be read back. -/
def parsePlain (s : List Char) : Except UrlError Host :=
  match bracketed? s with
  | some result => result
  | none =>
    if s.any forbidden then .error .invalidHostCharacter else .ok (.name (escape isControl s))

def isEmpty (h : Host) : Bool := h == .name ""

end Host

inductive Path where
  /-- A path without a root, as in `mailto:`. -/
  | rootless (text : String)
  /-- Each segment has a slash before it. -/
  | segments (list : List String)
  deriving DecidableEq, Repr

def Path.text : Path → String
  | .rootless s => s
  | .segments list => String.join (list.map ("/" ++ ·))

end Url

structure Url where
  scheme : String
  username : String
  password : Option String
  /-- Present if the URL has an authority, and then perhaps empty. -/
  host : Option Url.Host
  port : Option Nat
  path : Url.Path
  query : Option String
  fragment : Option String
  deriving DecidableEq, Repr

namespace Url

/-- The schemes whose URLs always have a host, with their default ports. -/
def defaultPort? : String → Option Nat
  | "http" | "ws" => some 80
  | "https" | "wss" => some 443
  | "ftp" => some 21
  | _ => none

def isSpecialScheme (scheme : String) : Bool := (defaultPort? scheme).isSome || scheme == "file"

def hasHost (u : Url) : Bool := u.host.any (!·.isEmpty)

def userInfo (u : Url) : String :=
  if u.username.isEmpty ∧ u.password = none then ""
  else u.username ++ (u.password.map (":" ++ ·)).getD "" ++ "@"

/-- Whether the path without an authority would read as one. -/
def needsGuard (u : Url) : Bool :=
  u.host.isNone &&
    match u.path with
    | .segments ("" :: _ :: _) => true
    | _ => false

def text (u : Url) : String :=
  let authority := match u.host with
    | none => if u.needsGuard then "/." else ""
    | some h => "//" ++ u.userInfo ++ h.text ++ (u.port.map (":" ++ toString ·)).getD ""
  u.scheme ++ ":" ++ authority ++ u.path.text ++ (u.query.map ("?" ++ ·)).getD "" ++
    (u.fragment.map ("#" ++ ·)).getD ""

/-- As it is sent: user name and password travel apart from the address. -/
def withoutUserInfo (u : Url) : Url := { u with username := "", password := none }

def withoutFragment (u : Url) : Url := { u with fragment := none }

/-- Puts another host in place of this one. A guard before the path becomes part of it. -/
def withHost (u : Url) (host : List Char) : Except UrlError Url := do
  match u.path with
  | .rootless _ => throw .hostless
  | .segments list =>
    let special := isSpecialScheme u.scheme
    if host.isEmpty && special && u.scheme != "file" then throw .emptyHost
    let bracketed := host.head? = some '[' ∧ host.getLast? = some ']'
    let name ← if bracketed then pure host else
      match Text.cut? ':' host with
      | some ([], _) => throw .invalidHostCharacter
      | some (name, _) => pure name
      | none => pure host
    let parsed ← if special then Host.parseSpecial name else Host.parsePlain name
    return { u with
      host := some parsed
      path := .segments (if u.needsGuard then "." :: list else list) }

/-- Puts another port in place of this one, where there is a host to have it. -/
def withPort? (u : Url) (port : Option Nat) : Option Url :=
  if !u.hasHost || u.scheme == "file" then none
  else some { u with port := if port = defaultPort? u.scheme then none else port }

end Url

end StackSync

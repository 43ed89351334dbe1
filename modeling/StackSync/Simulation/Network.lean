import StackSync.Reconcile.Program

/-!
# A scripted network

What a rehearsal gets when it downloads: a list of replies for each address, one after the other, of which the
last stays; an address that is not listed is not found. Without a network no server can be reached at all.
-/

namespace StackSync

/-- A reply as it is scripted. -/
structure ScriptedReply where
  status : Nat
  body : ByteArray
  dropped : Bool
  /-- How many bytes of the body arrive, if not all. -/
  truncated : Option Nat

structure Network where
  isOnline : Bool
  replies : List (String × List ScriptedReply)
  attempts : List String
  deriving Inhabited

namespace Network

def sendingFailed (url : Url) : String := "error sending request for url (" ++ url.withoutUserInfo.text ++ ")"

def portOf (url : Url) : Nat := (url.port <|> Url.defaultPort? url.scheme).getD 0

def hostOf (url : Url) : String := (url.host.map (·.text)).getD ""

def replyOf (url : Url) (r : ScriptedReply) : Reply :=
  if r.dropped then .failure false (sendingFailed url)
  else
    .response r.status
      (match r.truncated with
        | some n => if n < r.body.size then .error "error decoding response body" else .ok r.body
        | none => .ok r.body)

/-- The reply to the `n`th request of an address, counted from zero. -/
def scripted (network : Network) (address : String) (n : Nat) : ScriptedReply :=
  let replies := (network.replies.lookup address).getD []
  (replies[n]? <|> replies.getLast?).getD ⟨404, ByteArray.empty, false, none⟩

/-- One attempt to get a URL. Only plain connections find a server; a secure one ends at the handshake. -/
def attempt (network : Network) (url : Url) : Reply × Network :=
  if !network.isOnline then (.failure true (sendingFailed url), network)
  else if url.scheme = "https" then
    (.failure true (sendingFailed url),
      { network with
        attempts := network.attempts ++
          ["CONNECT " ++ hostOf url ++ ":" ++ toString (portOf url)] })
  else
    let address := url.withoutUserInfo.withoutFragment.text
    (replyOf url (network.scripted address (network.attempts.count address)),
      { network with attempts := network.attempts ++ [address] })

end Network

end StackSync

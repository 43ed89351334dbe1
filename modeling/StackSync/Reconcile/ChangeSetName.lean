import StackSync.Digest.Basic

/-!
# Names of change sets

The name of a change set is a function of the generation and the revision it deploys, so that a second round
finds the change set a first one made. The service admits letters, digits and `-`, and 128 characters; a
revision that does not fit is cut, and its digest keeps the names of long revisions apart.
-/

namespace StackSync.ChangeSetName

def maxLength : Nat := 128

def digestLength : Nat := 16

/-- ASCII letters, digits and `-` stay; any other character is written as `-`. -/
def char (c : Char) : Char := if c.isAlphanum || c == '-' then c else '-'

/-- What the names of one generation start with. -/
def head (generation : Int64) : String := "flux-" ++ toString generation.toInt ++ "-"

def digest (revision : String) : List Char :=
  (Digest.Algorithm.sha256.hexDigest revision.toUTF8).toList.take digestLength

def of (generation : Int64) (revision : String) : String :=
  let start := head generation
  let token := revision.toList.map char
  if revision.isEmpty then start ++ "unknown"
  else if start.length + token.length ≤ maxLength then start ++ String.ofList token
  else
    let kept := maxLength - (start.length + 1 + digestLength)
    start ++ String.ofList (token.take kept ++ '-' :: digest revision)

end StackSync.ChangeSetName

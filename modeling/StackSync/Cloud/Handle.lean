import StackSync.Text.Blank
import StackSync.Text.Cut

/-!
# Handles of change sets

A change set is known by a name that this controller chooses and, once the service has created it, by an ARN
that is unique over its whole life. `parse` reads back what `reference` writes: an ARN carries the name
between `:changeSet/` and the next slash.
-/

namespace StackSync

structure ChangeSetHandle where
  name : String
  id : Option String
  deriving DecidableEq, Repr, Inhabited

namespace ChangeSetHandle

def named (name : String) : ChangeSetHandle := ⟨name, none⟩

/-- The text a change set is addressed by: its ARN, if it is known, and else its name. -/
def reference (h : ChangeSetHandle) : String := h.id.getD h.name

def arnMark : String := "arn:"

def nameMark : String := ":changeSet/"

/-- The name in an ARN, if it is the ARN of a change set. -/
def nameInArn? (arn : List Char) : Option (List Char) :=
  (Text.behind? nameMark.toList arn).map (·.takeWhile (· ≠ '/'))

def parse (stored : String) : ChangeSetHandle :=
  let s := Text.trimChars stored.toList
  if arnMark.toList.isPrefixOf s then
    ⟨String.ofList ((nameInArn? s).getD s), some (String.ofList s)⟩
  else named (String.ofList s)

end ChangeSetHandle

end StackSync

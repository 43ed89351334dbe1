import StackSync.Url.Label

/-!
# Domain names

A domain is compared and sent in its ASCII form: every character is replaced by what it stands for, the text is
brought into its one form and cut at the dots, and each label is sent as it is or in the form for labels above
ASCII.
-/

namespace StackSync.Url

/-- ASCII characters that no domain holds. -/
def deniedInDomain (c : Char) : Bool :=
  c.toNat ≤ 0x20 || c.toNat == 0x7F ||
    ['%', '#', '/', ':', '<', '>', '?', '@', '[', '\\', ']', '^', '|'].contains c

def labels? (s : List Char) : Option (List Label) := do
  let text := Text.normalForm (← s.mapM hostForm?).flatten
  if text.any deniedInDomain then none
  let labels ← (Text.pieces '.' text).mapM Label.of?
  if labels.any (·.text.any deniedInDomain) then none
  if labels.any (·.runsLeft) ∧ !labels.all (·.keepsDirection) then none
  return labels

def domainToAscii? (s : List Char) : Option (List Char) :=
  (labels? s).map fun labels => ['.'].intercalate (labels.map (·.ascii))

end StackSync.Url

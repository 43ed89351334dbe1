import StackSync.Resource.Basic
import StackSync.Text.Blank
import StackSync.Text.Cut

/-!
# Tags in a setting

An operator gives the tags of every stack as `team=infra,env=dev`: entries between commas, each cut at its
first `=`, with white space around key and value taken off. Order and duplicates are kept; an entry without
`=` or with a blank key counts for nothing.
-/

namespace StackSync.Tags

def entry? (s : List Char) : Option KeyValue := do
  let (key, value) ← Text.cut? '=' s
  let key := Text.trimChars key
  if key.isEmpty then none
  else some ⟨String.ofList key, String.ofList (Text.trimChars value)⟩

def parse (s : String) : List KeyValue := (Text.pieces ',' s.toList).filterMap entry?

end StackSync.Tags

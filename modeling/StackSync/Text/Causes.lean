/-!
# The text of an error and its causes

An error may have a cause, and that cause another one. Their messages are joined from the outside in, and a
message that the text already ends with is not said twice: many errors quote their cause themselves.
-/

namespace StackSync.Text

/-- The text with a cause behind it, unless it ends with that cause already. -/
def withCause (text cause : String) : String :=
  if cause.toList.isSuffixOf text.toList then text else text ++ ": " ++ cause

def joinCauses (outermost : String) (causes : List String) : String :=
  causes.foldl withCause outermost

end StackSync.Text

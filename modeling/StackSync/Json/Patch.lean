import StackSync.Json.Basic

/-!
# Merge patches

A merge patch (`application/merge-patch+json`) describes a change by example: an object in the patch is
merged field by field, `null` removes a field, and anything else, arrays included, replaces what was there.
That arrays are replaced whole is what makes a patched list the writer's own list.
-/

namespace StackSync.Json

/-- The fields of an object; any other value counts as an empty object when it is merged onto. -/
def fieldsOf : Json → Fields
  | .object fields => fields
  | _ => []

mutual

def mergePatch (target : Json) : Json → Json
  | .object patch => .object (mergeFields (fieldsOf target) patch)
  | patch => patch

def mergeFields (target : Fields) : List (String × Json) → Fields
  | [] => target
  | (key, value) :: rest =>
    mergeFields
      (match value with
        | .null => Fields.erase key target
        | value => Fields.insert key (mergePatch ((Fields.get? key target).getD .null) value) target)
      rest

end

end StackSync.Json

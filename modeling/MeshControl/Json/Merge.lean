import MeshControl.Json.Basic

/-!
JSON merge patches: a patch object merges field by field into the target (made an object
first if it is not one), a null field deletes, and any other patch value replaces the target.
-/

namespace MeshControl

namespace Json

mutual
/-- Applies a merge patch to a target. -/
def mergePatch (target : Json) : Json → Json
  | .obj entries => .obj (mergeFields (match target with | .obj fs => fs | _ => []) entries)
  | other => other

/-- Merges patch fields into the target's fields: null deletes, other values merge into the
field's current value (null when absent). -/
def mergeFields (fields : Fields) : List (String × Json) → Fields
  | [] => fields
  | (k, v) :: rest =>
    let fields := match v with
      | .null => Fields.erase fields k
      | _ => Fields.insert fields k (mergePatch ((Fields.get? fields k).getD .null) v)
    mergeFields fields rest
end

end Json

end MeshControl

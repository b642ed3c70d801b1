import Gleaner.Json.Basic

/-!
Merging one JSON document over another: objects member by member, and anything else in place of what
was there. `null` over a value changes nothing.
-/
namespace Gleaner.Json

mutual

def merge (base : Json) : Json → Json
  | .null => base
  | .obj members =>
    match base with
    | .obj own => .obj (mergeMembers own members)
    | _ => .obj members
  | other => other

/-- Merges members one after another. What the base lacks comes last, unless it is `null`. -/
def mergeMembers (own : List (String × Json)) : List (String × Json) → List (String × Json)
  | [] => own
  | (k, j) :: rest =>
    mergeMembers
      (match own.lookup k with
        | some old => Keyed.put k (merge old j) own
        | none => if j.isNull then own else own ++ [(k, j)]) rest

end

end Gleaner.Json

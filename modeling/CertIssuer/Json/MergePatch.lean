import CertIssuer.Json.Basic

/-!
Merge patches: an object in a patch is applied member by member, null removes a member, and any
other value replaces what was there.
-/

namespace CertIssuer.Json

/-- The members without those of a name. -/
def without (name : String) (fields : List (String × Json)) : List (String × Json) :=
  fields.filter fun m => m.1 ≠ name

/-- The members with one value for a name, in the place of the first of that name or at the end. -/
def withMember (name : String) (value : Json) : List (String × Json) → List (String × Json)
  | [] => [(name, value)]
  | m :: rest =>
    if m.1 = name then (name, value) :: without name rest else m :: withMember name value rest

mutual

/-- The document after a patch. -/
def mergePatch (document : Json) : Json → Json
  | .obj fields => .obj (mergeMembers document.members fields)
  | other => other

/-- The members after a patch's members, one after the other. -/
def mergeMembers (members : List (String × Json)) : List (String × Json) → List (String × Json)
  | [] => members
  | (name, .null) :: rest => mergeMembers (without name members) rest
  | (name, value) :: rest =>
    let merged := mergePatch ((members.lookup name).getD .null) value
    mergeMembers (withMember name merged members) rest

end

end CertIssuer.Json

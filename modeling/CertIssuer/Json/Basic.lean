import CertIssuer.Number.Binary

/-!
JSON values. Whole numbers stay exact; any other number is a 64-bit binary one. The members of an
object keep their order and may repeat, so that a reader of records can refuse a repeated member.
-/

namespace CertIssuer

open Number (Binary)

/-- A JSON value. -/
inductive Json where
  | null
  | bool (b : Bool)
  | int (n : Int)
  | real (x : Binary)
  | str (s : String)
  | arr (items : List Json)
  | obj (members : List (String × Json))
  /-- A well-formed literal that names no text, because of an unpaired surrogate in it. -/
  | unpaired

namespace Json

/-- A list of texts. -/
def strings (items : List String) : Json := .arr (items.map .str)

/-- A text, or null when there is none. -/
def ofText? : Option String → Json
  | some s => .str s
  | none => .null

/-- The members of an object; none for any other value. -/
def members : Json → List (String × Json)
  | .obj fields => fields
  | _ => []

/-- The value of the first member of that name. -/
def get? (j : Json) (name : String) : Option Json := j.members.lookup name

mutual

/-- The same value with the members of every object in the order of their names. -/
def sorted : Json → Json
  | .arr items => .arr (sortedItems items)
  | .obj fields => .obj ((sortedMembers fields).mergeSort fun a b => a.1 ≤ b.1)
  | other => other

/-- Sorts the members within each item. -/
def sortedItems : List Json → List Json
  | [] => []
  | item :: rest => item.sorted :: sortedItems rest

/-- Sorts the members within each member's value. -/
def sortedMembers : List (String × Json) → List (String × Json)
  | [] => []
  | (name, value) :: rest => (name, value.sorted) :: sortedMembers rest

end

end Json
end CertIssuer

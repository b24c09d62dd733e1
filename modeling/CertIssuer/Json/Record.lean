import CertIssuer.Json.Basic
import CertIssuer.Text.Base64

/-!
Reading records from JSON. A record with declared members is written as an object, in which no
declared member may repeat and others are ignored, or as an array of the members in order.
-/

namespace CertIssuer.Json

/-- How many members have that name. -/
def occurrences (fields : List (String × Json)) (name : String) : Nat :=
  (fields.filter fun m => m.1 = name).length

/-- The declared members of a record, by name. -/
def record? (names : List String) : Json → Option (String → Option Json)
  | .obj fields =>
    if names.all fun n => occurrences fields n ≤ 1 then some fun n => fields.lookup n else none
  | .arr items =>
    if items.length ≤ names.length then some fun n => (names.zip items).lookup n else none
  | _ => none

/-- The members of an object by name, where the last of repeated ones counts. -/
def object? : Json → Option (String → Option Json)
  | .obj fields => some fun n => fields.reverse.lookup n
  | _ => none

/-- A text. -/
def text? : Json → Option String
  | .str s => some s
  | _ => none

/-- A truth value. -/
def bool? : Json → Option Bool
  | .bool b => some b
  | _ => none

/-- A whole number within bounds. -/
def int? (low high : Int) : Json → Option Int
  | .int n => if low ≤ n ∧ n ≤ high then some n else none
  | _ => none

/-- A whole number of 64 signed bits. -/
def int64? : Json → Option Int := int? Int64.minValue.toInt Int64.maxValue.toInt

/-- A list of values read one by one. -/
def list? {α : Type} (read : Json → Option α) : Json → Option (List α)
  | .arr items => items.mapM read
  | _ => none

/-- A value, or nothing where null stands. -/
def nullable? {α : Type} (read : Json → Option α) : Json → Option (Option α)
  | .null => some none
  | j => (read j).map some

/-- A table from texts to values, where the last of repeated names counts. -/
def table? {α : Type} (read : Json → Option α) : Json → Option (List (String × α))
  | .obj fields =>
    (fields.mapM fun m => (read m.2).map fun v => (m.1, v)).map fun entries =>
      entries.foldl (fun kept e => kept.filter (fun k => k.1 ≠ e.1) ++ [e]) []
  | _ => none

/-- A byte string as its base64 text; null stands for the empty one. -/
def bytes? : Json → Option Bytes
  | .null => some []
  | .str s =>
    match Base64.decode s with
    | .ok bytes => some bytes
    | .error _ => none
  | _ => none

/-- A byte string as its base64 text. -/
def ofBytes (bytes : Bytes) : Json := .str (Base64.encode bytes)

/-- A member that must be there. -/
def required {α : Type} (read : Json → Option α) : Option Json → Option α
  | some j => read j
  | none => none

/-- A member with a value to take when it is missing. -/
def withDefault {α : Type} (default : α) (read : Json → Option α) : Option Json → Option α
  | some j => read j
  | none => some default

/-- A member that may be missing or null. -/
def optional {α : Type} (read : Json → Option α) : Option Json → Option (Option α)
  | some j => nullable? read j
  | none => some none

/-- One of a fixed set of names, as a text or as an object with that one member, which is null. -/
def choice? {α : Type} (named : String → Option α) : Json → Option α
  | .str s => named s
  | .obj [(s, .null)] => named s
  | _ => none

/-- A member that is written only when there is a value. -/
def member? {α : Type} (name : String) (write : α → Json) : Option α → List (String × Json)
  | some a => [(name, write a)]
  | none => []

/-- A member that is written only when the list has elements. -/
def memberUnlessEmpty {α : Type} (name : String) (write : List α → Json) (items : List α) :
    List (String × Json) :=
  if items.isEmpty then [] else [(name, write items)]

end CertIssuer.Json

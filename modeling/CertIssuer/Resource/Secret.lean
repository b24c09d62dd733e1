import CertIssuer.Resource.Object

/-!
Secrets: byte strings under keys.
-/

namespace CertIssuer

/-- A secret. -/
structure Secret where
  metadata : Metadata
  data : Option (List (String × Bytes))
  stringData : Option (List (String × String))
  type : Option String
  immutable : Option Bool
  deriving DecidableEq

namespace Secret

/-- The kind of secrets. -/
def kind : String := "Secret"

/-- The version of secrets. -/
def apiVersion : String := "v1"

/-- A secret that holds one value. -/
def single (ns name key : String) (value : Bytes) : Secret :=
  ⟨{ Metadata.empty with ns := some ns, name := some name }, some [(key, value)], none, none, none⟩

/-- The value under a key. -/
def value? (s : Secret) (key : String) : Option Bytes := s.data.bind fun d => d.lookup key

/-- The key under which a secret is kept. -/
def objectKey (s : Secret) : ObjectKey := ⟨s.metadata.nsOrEmpty, s.metadata.anyName⟩

/-- A table of byte strings in JSON. -/
def dataToJson (entries : List (String × Bytes)) : Json :=
  .obj (entries.map fun e => (e.1, Json.ofBytes e.2))

/-- A secret in JSON. -/
def toJson (s : Secret) : Json :=
  .obj ([("apiVersion", .str apiVersion), ("kind", .str kind)]
    ++ Json.member? "data" dataToJson s.data
    ++ Json.member? "immutable" .bool s.immutable
    ++ [("metadata", s.metadata.toJson)]
    ++ Json.member? "stringData" Metadata.tableToJson s.stringData
    ++ Json.member? "type" .str s.type)

/-- Reads a member that may only have one text. -/
def exactly (expected : String) (j : Json) : Option Unit :=
  match j with
  | .str s => if s = expected then some () else none
  | _ => none

/-- A secret read from JSON. -/
def ofJson? (j : Json) : Option Secret := do
  let m ← j.object?
  Json.withDefault () (exactly apiVersion) (m "apiVersion")
  Json.withDefault () (exactly kind) (m "kind")
  let metadata ← Json.optional Metadata.ofJson? (m "metadata")
  let data ← Json.optional (Json.table? Json.bytes?) (m "data")
  let stringData ← Json.optional (Json.table? Json.text?) (m "stringData")
  let type ← Json.optional Json.text? (m "type")
  let immutable ← Json.optional Json.bool? (m "immutable")
  some ⟨metadata.getD .empty, data, stringData, type, immutable⟩

end Secret
end CertIssuer

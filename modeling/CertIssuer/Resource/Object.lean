import CertIssuer.Json.Record

/-!
Cluster objects: metadata, and around it a specification and a status. The kind of an object and
its group are fixed by its type, so they are written and never read.
-/

namespace CertIssuer

/-- What identifies an object and which version of it this is. -/
structure Metadata where
  name : Option String
  generateName : Option String
  ns : Option String
  labels : Option (List (String × String))
  annotations : Option (List (String × String))
  resourceVersion : Option String
  uid : Option String
  generation : Option Int
  deriving DecidableEq

namespace Metadata

/-- Metadata that say nothing. -/
def empty : Metadata := ⟨none, none, none, none, none, none, none, none⟩

/-- The name of the object, or else the beginning of a name to be generated. -/
def anyName (m : Metadata) : String := (m.name.or m.generateName).getD ""

/-- The namespace, empty when there is none. -/
def nsOrEmpty (m : Metadata) : String := m.ns.getD ""

/-- A table of texts in JSON. -/
def tableToJson (entries : List (String × String)) : Json :=
  .obj (entries.map fun e => (e.1, .str e.2))

/-- Metadata in JSON. -/
def toJson (m : Metadata) : Json :=
  .obj (Json.member? "annotations" tableToJson m.annotations
    ++ Json.member? "generateName" .str m.generateName
    ++ Json.member? "generation" .int m.generation
    ++ Json.member? "labels" tableToJson m.labels
    ++ Json.member? "name" .str m.name
    ++ Json.member? "namespace" .str m.ns
    ++ Json.member? "resourceVersion" .str m.resourceVersion
    ++ Json.member? "uid" .str m.uid)

/-- Metadata read from JSON. -/
def ofJson? (j : Json) : Option Metadata := do
  let m ← j.object?
  let name ← Json.optional Json.text? (m "name")
  let generateName ← Json.optional Json.text? (m "generateName")
  let ns ← Json.optional Json.text? (m "namespace")
  let labels ← Json.optional (Json.table? Json.text?) (m "labels")
  let annotations ← Json.optional (Json.table? Json.text?) (m "annotations")
  let resourceVersion ← Json.optional Json.text? (m "resourceVersion")
  let uid ← Json.optional Json.text? (m "uid")
  let generation ← Json.optional Json.int64? (m "generation")
  some ⟨name, generateName, ns, labels, annotations, resourceVersion, uid, generation⟩

end Metadata

/-- The key of an object among those of its kind: its namespace and its name. -/
structure ObjectKey where
  ns : String
  name : String
  deriving DecidableEq

/-- An object with a specification and, once there is one, a status. -/
structure Object (σ τ : Type) where
  metadata : Metadata
  spec : σ
  status : Option τ
  deriving DecidableEq

namespace Object

variable {σ τ : Type}

/-- The key under which an object is kept. -/
def key (o : Object σ τ) : ObjectKey := ⟨o.metadata.nsOrEmpty, o.metadata.anyName⟩

/-- The same object at another version. -/
def atVersion (o : Object σ τ) (version : String) : Object σ τ :=
  { o with metadata := { o.metadata with resourceVersion := some version } }

/-- An object in JSON. -/
def toJson (apiVersion kind : String) (spec : σ → Json) (status : τ → Json) (o : Object σ τ) :
    Json :=
  .obj ([("apiVersion", .str apiVersion), ("kind", .str kind), ("metadata", o.metadata.toJson),
    ("spec", spec o.spec)] ++ Json.member? "status" status o.status)

/-- Whether a JSON value leaves out a member that only an object may leave out. -/
def isShort : Json → Bool
  | .arr items => items.length < 3
  | _ => false

/-- An object read from JSON. -/
def ofJson? (spec : Json → Option σ) (status : Json → Option τ) (j : Json) :
    Option (Object σ τ) := do
  let m ← j.record? ["metadata", "spec", "status"]
  let metadata ← Json.required Metadata.ofJson? (m "metadata")
  let s ← Json.required spec (m "spec")
  let t ← Json.optional status (m "status")
  if isShort j then none else some ⟨metadata, s, t⟩

end Object

/-- The path of an object in messages and as the key of its delays: its kind, its namespace if it
has one, and its name. -/
def objectPath (kind : String) (ns : Option String) (name : String) : String :=
  match ns with
  | some ns => kind ++ "/" ++ ns ++ "/" ++ name
  | none => kind ++ "/" ++ name

end CertIssuer

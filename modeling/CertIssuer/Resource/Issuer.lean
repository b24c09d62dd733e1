import CertIssuer.Resource.Condition
import CertIssuer.Resource.Object

/-!
Issuers: a service key of the authority bound to the kind of signature it is asked for. An origin
issuer serves the requests of its own namespace, a cluster origin issuer those of every namespace.
-/

namespace CertIssuer

/-- The group of the issuers. -/
def issuerGroup : String := "cert-manager.k8s.cloudflare.com"

/-- The two kinds of issuers. -/
inductive IssuerKind where
  | origin
  | cluster
  deriving DecidableEq

namespace IssuerKind

/-- The name of a kind. -/
def text : IssuerKind → String
  | .origin => "OriginIssuer"
  | .cluster => "ClusterOriginIssuer"

/-- The kind of that name. -/
def ofText? (s : String) : Option IssuerKind :=
  if s = "OriginIssuer" then some .origin
  else if s = "ClusterOriginIssuer" then some .cluster
  else none

/-- The namespace that holds the service key of an issuer: its own, or for the cluster kind the one
set aside for the resources of the cluster. -/
def credentialNs (kind : IssuerKind) (issuerNs clusterNs : String) : String :=
  match kind with
  | .origin => issuerNs
  | .cluster => clusterNs

end IssuerKind

/-- The kinds of signatures. -/
inductive RequestType where
  | rsa
  | ecc
  deriving DecidableEq

namespace RequestType

/-- The name of a signature kind in resources. -/
def text : RequestType → String
  | .rsa => "OriginRSA"
  | .ecc => "OriginECC"

/-- The signature kind of that name. -/
def ofText? (s : String) : Option RequestType :=
  if s = "OriginRSA" then some .rsa else if s = "OriginECC" then some .ecc else none

/-- The name of a signature kind in calls to the authority. -/
def apiTag : RequestType → String
  | .rsa => "origin-rsa"
  | .ecc => "origin-ecc"

/-- The name of a signature kind in diagnostics. -/
def label : RequestType → String
  | .rsa => "OriginRsa"
  | .ecc => "OriginEcc"

/-- A signature kind in JSON. -/
def toJson (t : RequestType) : Json := .str t.text

/-- A signature kind read from JSON. -/
def ofJson? : Json → Option RequestType := Json.choice? ofText?

end RequestType

/-- A key of a secret. -/
structure SecretKeySelector where
  name : String
  key : String
  deriving DecidableEq

/-- What an issuer signs, and with which service key. -/
structure IssuerSpec where
  requestType : RequestType
  serviceKeyRef : SecretKeySelector
  deriving DecidableEq

/-- What is known about an issuer. -/
structure IssuerStatus where
  conditions : List Condition
  deriving DecidableEq

/-- An issuer of either kind. -/
abbrev Issuer := Object IssuerSpec IssuerStatus

namespace SecretKeySelector

/-- A selector in JSON. -/
def toJson (s : SecretKeySelector) : Json := .obj [("name", .str s.name), ("key", .str s.key)]

/-- A selector read from JSON. -/
def ofJson? (j : Json) : Option SecretKeySelector := do
  let m ← j.record? ["name", "key"]
  let name ← Json.required Json.text? (m "name")
  let key ← Json.required Json.text? (m "key")
  some ⟨name, key⟩

end SecretKeySelector

namespace IssuerSpec

/-- A specification in JSON. -/
def toJson (s : IssuerSpec) : Json :=
  .obj [("requestType", s.requestType.toJson),
    ("auth", .obj [("serviceKeyRef", s.serviceKeyRef.toJson)])]

/-- The credentials of a specification read from JSON. -/
def authOfJson? (j : Json) : Option SecretKeySelector := do
  let m ← j.record? ["serviceKeyRef"]
  Json.required SecretKeySelector.ofJson? (m "serviceKeyRef")

/-- A specification read from JSON. -/
def ofJson? (j : Json) : Option IssuerSpec := do
  let m ← j.record? ["requestType", "auth"]
  let requestType ← Json.required RequestType.ofJson? (m "requestType")
  let serviceKeyRef ← Json.required authOfJson? (m "auth")
  some ⟨requestType, serviceKeyRef⟩

end IssuerSpec

namespace IssuerStatus

/-- The status of an issuer nobody has looked at. -/
def empty : IssuerStatus := ⟨[]⟩

/-- A status in JSON. -/
def toJson (s : IssuerStatus) : Json := .obj [("conditions", Conditions.toJson s.conditions)]

/-- A status read from JSON. -/
def ofJson? (j : Json) : Option IssuerStatus := do
  let m ← j.record? ["conditions"]
  let conditions ← Json.withDefault [] Conditions.ofJson? (m "conditions")
  some ⟨conditions⟩

end IssuerStatus

namespace Issuer

/-- The group and version of issuers. -/
def apiVersion : String := issuerGroup ++ "/v1"

/-- An issuer in JSON. -/
def toJson (kind : IssuerKind) : Issuer → Json :=
  Object.toJson apiVersion kind.text IssuerSpec.toJson IssuerStatus.toJson

/-- An issuer read from JSON. -/
def ofJson? : Json → Option Issuer := Object.ofJson? IssuerSpec.ofJson? IssuerStatus.ofJson?

/-- The conditions recorded on an issuer. -/
def conditions (i : Issuer) : List Condition := (i.status.getD .empty).conditions

end Issuer

/-- The key of an issuer among all issuers. -/
inductive IssuerKey where
  | origin (key : ObjectKey)
  | cluster (name : String)
  deriving DecidableEq

namespace IssuerKey

/-- The kind of the issuer. -/
def kind : IssuerKey → IssuerKind
  | .origin _ => .origin
  | .cluster _ => .cluster

/-- The name of the issuer. -/
def name : IssuerKey → String
  | .origin key => key.name
  | .cluster name => name

/-- The issuer of that kind and name that a request of a namespace refers to. -/
def referred (kind : IssuerKind) (ns name : String) : IssuerKey :=
  match kind with
  | .origin => .origin ⟨ns, name⟩
  | .cluster => .cluster name

@[simp] theorem kind_referred (kind : IssuerKind) (ns name : String) :
    (referred kind ns name).kind = kind := by
  cases kind <;> rfl

/-- The key under which an issuer is kept. -/
def ofIssuer (kind : IssuerKind) (i : Issuer) : IssuerKey :=
  referred kind i.metadata.nsOrEmpty i.metadata.anyName

@[simp] theorem kind_ofIssuer (kind : IssuerKind) (i : Issuer) : (ofIssuer kind i).kind = kind :=
  kind_referred ..

/-- The issuer in messages: its name, after its namespace if it has one. -/
def display : IssuerKey → String
  | .origin key => key.ns ++ "/" ++ key.name
  | .cluster name => name

end IssuerKey
end CertIssuer

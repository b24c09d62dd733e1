import CertIssuer.Resource.Condition
import CertIssuer.Resource.Object

/-!
Certificate requests: what is to be signed and by which issuer, and how far that got.
-/

namespace CertIssuer

/-- The issuer a request names. -/
structure IssuerReference where
  name : String
  kind : Option String
  group : Option String
  deriving DecidableEq

/-- What a request asks for. -/
structure RequestSpec where
  /-- The signing request in PEM. -/
  request : Bytes
  /-- The lifetime asked for, as a duration text. -/
  duration : Option String
  issuerRef : IssuerReference
  isCA : Bool
  usages : List String
  deriving DecidableEq

/-- How far a request got. -/
structure RequestStatus where
  conditions : List Condition
  /-- The issued certificate in PEM; empty as long as there is none. -/
  certificate : Bytes
  /-- The certificate of the authority in PEM, if known. -/
  ca : Bytes
  /-- When the request failed for good. -/
  failureTime : Option String
  deriving DecidableEq

/-- A certificate request. -/
abbrev CertificateRequest := Object RequestSpec RequestStatus

namespace IssuerReference

/-- A reference in JSON. -/
def toJson (r : IssuerReference) : Json :=
  .obj ([("name", .str r.name)] ++ Json.member? "kind" .str r.kind
    ++ Json.member? "group" .str r.group)

/-- A reference read from JSON. -/
def ofJson? (j : Json) : Option IssuerReference := do
  let m ← j.record? ["name", "kind", "group"]
  let name ← Json.required Json.text? (m "name")
  let kind ← Json.optional Json.text? (m "kind")
  let group ← Json.optional Json.text? (m "group")
  some ⟨name, kind, group⟩

end IssuerReference

namespace RequestSpec

/-- A specification in JSON. -/
def toJson (s : RequestSpec) : Json :=
  .obj ([("request", Json.ofBytes s.request)] ++ Json.member? "duration" .str s.duration
    ++ [("issuerRef", s.issuerRef.toJson), ("isCA", .bool s.isCA)]
    ++ Json.memberUnlessEmpty "usages" Json.strings s.usages)

/-- A specification read from JSON. -/
def ofJson? (j : Json) : Option RequestSpec := do
  let m ← j.record? ["request", "duration", "issuerRef", "isCA", "usages"]
  let request ← Json.withDefault [] Json.bytes? (m "request")
  let duration ← Json.optional Json.text? (m "duration")
  let issuerRef ← Json.required IssuerReference.ofJson? (m "issuerRef")
  let isCA ← Json.withDefault false Json.bool? (m "isCA")
  let usages ← Json.withDefault [] (Json.list? Json.text?) (m "usages")
  some ⟨request, duration, issuerRef, isCA, usages⟩

end RequestSpec

namespace RequestStatus

/-- The status of a request nobody has looked at. -/
def empty : RequestStatus := ⟨[], [], [], none⟩

/-- A status in JSON. -/
def toJson (s : RequestStatus) : Json :=
  .obj ([("conditions", Conditions.toJson s.conditions)]
    ++ Json.memberUnlessEmpty "certificate" Json.ofBytes s.certificate
    ++ Json.memberUnlessEmpty "ca" Json.ofBytes s.ca
    ++ Json.member? "failureTime" .str s.failureTime)

/-- A status read from JSON. -/
def ofJson? (j : Json) : Option RequestStatus := do
  let m ← j.record? ["conditions", "certificate", "ca", "failureTime"]
  let conditions ← Json.withDefault [] Conditions.ofJson? (m "conditions")
  let certificate ← Json.withDefault [] Json.bytes? (m "certificate")
  let ca ← Json.withDefault [] Json.bytes? (m "ca")
  let failureTime ← Json.optional Json.text? (m "failureTime")
  some ⟨conditions, certificate, ca, failureTime⟩

end RequestStatus

namespace CertificateRequest

/-- The kind of certificate requests. -/
def kind : String := "CertificateRequest"

/-- The group and version of certificate requests. -/
def apiVersion : String := "cert-manager.io/v1"

/-- A request in JSON. -/
def toJson : CertificateRequest → Json :=
  Object.toJson apiVersion kind RequestSpec.toJson RequestStatus.toJson

/-- A request read from JSON. -/
def ofJson? : Json → Option CertificateRequest :=
  Object.ofJson? RequestSpec.ofJson? RequestStatus.ofJson?

/-- The status, the empty one when there is none. -/
def statusOrEmpty (r : CertificateRequest) : RequestStatus := r.status.getD .empty

/-- The conditions recorded on a request. -/
def conditions (r : CertificateRequest) : List Condition := (statusOrEmpty r).conditions

/-- Whether a certificate is recorded on a request. -/
def hasCertificate (r : CertificateRequest) : Bool := !(statusOrEmpty r).certificate.isEmpty

end CertificateRequest
end CertIssuer

import CertIssuer.Json.Record

/-!
Signing: what the authority is asked for, what it answers, and how a call can fail.
-/

namespace CertIssuer

/-- What the authority is asked to sign. -/
structure SignRequest where
  hostnames : List String
  /-- The validity period in days. -/
  validity : Int64
  requestType : String
  csr : String
  deriving DecidableEq

/-- What the authority issued. -/
structure SignResponse where
  id : String
  certificate : String
  hostnames : List String
  expiration : Option String
  requestType : String
  validity : Int
  csr : String
  deriving DecidableEq

/-- An error that the authority reported. -/
structure ApiError where
  code : Int
  message : String
  /-- The identifier under which the authority knows the call. -/
  rayId : String
  deriving DecidableEq

/-- Why no answer arrived. -/
inductive TransportFault where
  /-- The service key cannot be sent in a header field. -/
  | unsendableKey
  /-- The connection was closed before the answer was complete. -/
  | connectionClosed
  deriving DecidableEq

/-- Why nothing was signed. -/
inductive SignError where
  | api (error : ApiError)
  | transport (fault : TransportFault)
  | invalidResponse (text : String)
  deriving DecidableEq

namespace SignRequest

/-- A request in JSON. -/
def toJson (r : SignRequest) : Json :=
  .obj [("hostnames", Json.strings r.hostnames), ("requested_validity", .int r.validity.toInt),
    ("request_type", .str r.requestType), ("csr", .str r.csr)]

end SignRequest

namespace SignResponse

/-- An answer that holds a certificate and nothing else. -/
def ofCertificate (certificate : String) : SignResponse := ⟨"", certificate, [], none, "", 0, ""⟩

/-- An answer read from JSON. -/
def ofJson? (j : Json) : Option SignResponse := do
  let m ← j.record? ["id", "certificate", "hostnames", "expires_on", "request_type",
    "requested_validity", "csr"]
  let id ← Json.withDefault "" Json.text? (m "id")
  let certificate ← Json.required Json.text? (m "certificate")
  let hostnames ← Json.withDefault [] (Json.list? Json.text?) (m "hostnames")
  let expiration ← Json.optional Json.text? (m "expires_on")
  let requestType ← Json.withDefault "" Json.text? (m "request_type")
  let validity ← Json.withDefault 0 Json.int64? (m "requested_validity")
  let csr ← Json.withDefault "" Json.text? (m "csr")
  some ⟨id, certificate, hostnames, expiration, requestType, validity, csr⟩

end SignResponse

namespace ApiError

/-- The code the authority reports when it could not store the certificate, which it may have
issued all the same. -/
def databaseWrite : Int := 1100

/-- The wording of an error. -/
def describe (e : ApiError) : String :=
  s!"Cloudflare API Error code={e.code} message={e.message} ray_id={e.rayId}"

end ApiError

namespace SignError

/-- The wording of a transport fault. -/
def faultMessage : TransportFault → String
  | .unsendableKey => "builder error"
  | .connectionClosed => "error sending request"

/-- The wording of an error. -/
def message : SignError → String
  | .api e => e.describe
  | .transport fault => "request to Origin CA API failed: " ++ faultMessage fault
  | .invalidResponse text => "unexpected Origin CA API response: " ++ text

/-- The error that the authority reported, if it reported one. -/
def apiError? : SignError → Option ApiError
  | .api e => some e
  | _ => none

end SignError

/-! ### Diagnostics -/

/-- A signer that is a function, in diagnostics. -/
def signerText : String := "SignerFn \x7b .. \x7d"

/-- A function that opens signers, in diagnostics. -/
def factoryText : String := "FactoryFn \x7b .. \x7d"

end CertIssuer

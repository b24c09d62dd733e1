import CertIssuer.Resource.CertificateRequest
import CertIssuer.Resource.Issuer
import CertIssuer.Resource.Secret
import CertIssuer.Text.Quoted

/-!
Store errors: why an object could not be read or a status not be written.
-/

namespace CertIssuer

open Text (quoted)

/-- A failure that the API server reported. -/
structure ApiStatus where
  status : String
  message : String
  reason : String
  code : Nat
  deriving DecidableEq

/-- Why a request to the API server failed. -/
inductive ApiFault where
  /-- The server answered with a failure. -/
  | reported (status : ApiStatus)
  /-- The server answered with something that is no such object. -/
  | undecodable
  /-- The names in the request make no request target. -/
  | unaddressable
  deriving DecidableEq

/-- Why a store did not do what it was asked. -/
inductive StoreError where
  | notFound (resource name : String)
  | conflict (resource name : String)
  | missingMetadata (kind field : String)
  | api (fault : ApiFault)
  | unavailable (text : String)
  deriving DecidableEq

namespace ApiStatus

/-- A failure in diagnostics. -/
def describe (s : ApiStatus) : String :=
  "ErrorResponse \x7b status: " ++ quoted s.status ++ ", message: " ++ quoted s.message
    ++ ", reason: " ++ quoted s.reason ++ ", code: " ++ toString s.code ++ " \x7d"

end ApiStatus

namespace ApiFault

/-- The wording of a fault. -/
def message : ApiFault → String
  | .reported s => "ApiError: " ++ s.message ++ ": " ++ s.reason ++ " (" ++ s.describe ++ ")"
  | .undecodable => "Error deserializing response"
  | .unaddressable => "Failed to build request"

end ApiFault

namespace StoreError

/-- The wording of an error. -/
def message : StoreError → String
  | .notFound resource name => resource ++ " " ++ quoted name ++ " not found"
  | .conflict resource name =>
    "Operation cannot be fulfilled on " ++ resource ++ " " ++ quoted name
      ++ ": the object has been modified; please apply your changes to the latest version and"
      ++ " try again"
  | .missingMetadata kind field => kind ++ " has no " ++ field
  | .api fault => fault.message
  | .unavailable text => text

/-- Whether the object does not exist. -/
def isNotFound : StoreError → Bool
  | .notFound .. => true
  | _ => false

end StoreError

/-! ### Names of the resources in messages -/

namespace CertificateRequest

/-- The name of the resource. -/
def resource : String := "certificaterequests.cert-manager.io"

end CertificateRequest

namespace IssuerKind

/-- The name of the resource. -/
def resource : IssuerKind → String
  | .origin => "originissuers.cert-manager.k8s.cloudflare.com"
  | .cluster => "clusteroriginissuers.cert-manager.k8s.cloudflare.com"

end IssuerKind

namespace Secret

/-- The name of the resource. -/
def resource : String := "secrets"

end Secret
end CertIssuer

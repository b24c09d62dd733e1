import CertIssuer.Authority.Signing
import CertIssuer.Csr.Request
import CertIssuer.Store.Error
import CertIssuer.Validity.Lifetime

/-!
Reconcile errors. An error is retryable when another attempt may succeed without the object
changing, and terminal otherwise.
-/

namespace CertIssuer

/-- Why no certificate was provisioned for a request. -/
inductive ProvisionError where
  | csr (fault : Csr.Fault)
  | duration (fault : Lifetime.Fault)
  | sign (error : SignError)
  deriving DecidableEq

namespace ProvisionError

/-- The wording of an error. -/
def message : ProvisionError → String
  | .csr fault => "failed to decode CSR for signing: " ++ fault.message
  | .duration fault => "failed to parse requested duration: " ++ fault.message
  | .sign error => "unable to sign request: " ++ error.message

/-- Whether the request itself is malformed. -/
def isMalformed : ProvisionError → Bool
  | .sign _ => false
  | _ => true

/-- The error of the call, if a call was made. -/
def signError? : ProvisionError → Option SignError
  | .sign error => some error
  | _ => none

end ProvisionError

/-- Whether another attempt may succeed. -/
inductive ErrorClass where
  | retryable
  | terminal
  deriving DecidableEq

/-- The name of a class. -/
def ErrorClass.text : ErrorClass → String
  | .retryable => "retryable"
  | .terminal => "terminal"

/-- The class of a provisioning error: only the failure to store the certificate is retryable, since
the authority may have issued it. -/
def ProvisionError.classify (e : ProvisionError) : ErrorClass :=
  match e.signError?.bind SignError.apiError? with
  | some error => if error.code = ApiError.databaseWrite then .retryable else .terminal
  | none => .terminal

/-- Why a reconcile did not reach its goal. -/
inductive ReconcileError where
  /-- The signing request or the lifetime is malformed. -/
  | malformedInput (error : ProvisionError)
  | unknownIssuerKind (kind : String)
  /-- The issuer could not be read. -/
  | issuerLookup (issuer : String) (error : StoreError)
  | issuerNotReady (issuer : String)
  | invalidIssuer (text : String)
  /-- The secret does not exist. -/
  | credentialNotFound (error : StoreError)
  | missingCredentialKey (secret key : String)
  | store (error : StoreError)
  /-- The service key gives no signer; the texts lead from what was attempted to what went wrong. -/
  | signerFactory (chain : List String)
  /-- The authority may have issued the certificate. -/
  | remoteTransient (error : ProvisionError)
  | remoteTerminal (error : ProvisionError)
  deriving DecidableEq

namespace ReconcileError

/-- The wording of an error. -/
def message : ReconcileError → String
  | .malformedInput error => error.message
  | .unknownIssuerKind kind => "unknown issuer kind: " ++ kind
  | .issuerLookup issuer error => "failed to retrieve " ++ issuer ++ ": " ++ error.message
  | .issuerNotReady issuer => "resource " ++ issuer ++ " is not ready"
  | .invalidIssuer text => "invalid issuer spec: " ++ text
  | .credentialNotFound error => error.message
  | .missingCredentialKey secret key =>
    "secret " ++ secret ++ " does not contain key " ++ Text.quoted key
  | .store error => error.message
  | .signerFactory chain => "failed to create API client: " ++ String.intercalate ": " chain
  | .remoteTransient error => error.message
  | .remoteTerminal error => error.message

/-- Whether another attempt may succeed without the object changing. -/
def isRetryable : ReconcileError → Bool
  | .malformedInput _ | .unknownIssuerKind _ | .invalidIssuer _ | .remoteTerminal _ => false
  | _ => true

/-- The class of an error. -/
def errorClass (e : ReconcileError) : ErrorClass :=
  if e.isRetryable then .retryable else .terminal

/-- The reason that a condition gives for a credential that could not be resolved. -/
def credentialReason : ReconcileError → String
  | .credentialNotFound _ | .missingCredentialKey .. => Reason.notFound
  | _ => Reason.error

end ReconcileError
end CertIssuer

import CertIssuer.Reconcile.Error
import CertIssuer.Reconcile.Plan
import CertIssuer.Validity.Period

/-!
Provisioning: from a certificate request to the call that signs it, and from the answer to the
certificate.
-/

namespace CertIssuer.Provision

/-- The validity period of a request: the allowed one nearest to the lifetime it asks for. -/
def validity (duration : Option String) : Except ProvisionError Int64 :=
  match duration with
  | none => .ok Period.standard
  | some text =>
    match Lifetime.parse text with
    | .ok span => .ok (Period.ofLifetime span)
    | .error fault => .error (.duration fault)

/-- What the authority is asked to sign for a request. -/
def signRequest (type : RequestType) (spec : RequestSpec) : Except ProvisionError SignRequest :=
  match Csr.dnsNames spec.request with
  | .error fault => .error (.csr fault)
  | .ok names =>
    match validity spec.duration with
    | .error e => .error e
    | .ok days => .ok ⟨names, days, type.apiTag, Text.decodeLossy spec.request⟩

/-- The event that a call is about to be made. -/
def requesting (r : SignRequest) : Log.Event :=
  Log.debug "requesting certificate from Origin CA"
    [("hostnames", Text.quotedList r.hostnames), ("validity", toString r.validity.toInt),
      ("request_type", r.requestType)]

/-- The certificate in an answer. -/
def certificate : Except SignError SignResponse → Except ProvisionError Bytes
  | .ok response => .ok (Text.encodeUtf8 response.certificate)
  | .error e => .error (.sign e)

/-- Has a signer sign a request. -/
def sign {σ : Type} (signer : σ) (type : RequestType) (spec : RequestSpec) :
    Plan σ (Except ProvisionError Bytes) :=
  match signRequest type spec with
  | .error e => Plan.fail e
  | .ok r =>
    (Plan.note (requesting r)).bind fun _ =>
      (Plan.perform (.sign signer r)).bind fun answer => .done (certificate answer)

/-- The provisioning of a signature kind in diagnostics. -/
def describe (type : RequestType) : String :=
  "Provisioner \x7b request_type: " ++ type.label ++ ", .. \x7d"

end CertIssuer.Provision

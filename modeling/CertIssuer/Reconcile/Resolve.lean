import CertIssuer.Reconcile.Error
import CertIssuer.Reconcile.Plan

/-!
Resolution: from the issuer that a request names to the issuer's specification and to the service
key it signs with. An issuer counts only while it is ready.
-/

namespace CertIssuer

/-- A ready issuer, and the namespace of its service key. -/
structure ResolvedIssuer where
  kind : IssuerKind
  display : String
  spec : IssuerSpec
  credentialNs : String
  deriving DecidableEq

namespace Resolve

variable {σ : Type}

/-- What is resolved from an issuer that was read. -/
def ofIssuer (key : IssuerKey) (requestNs clusterNs : String) (i : Issuer) :
    Except ReconcileError ResolvedIssuer :=
  if Conditions.has i.conditions Condition.ready .yes then
    .ok ⟨key.kind, key.display, i.spec, key.kind.credentialNs requestNs clusterNs⟩
  else .error (.issuerNotReady key.display)

/-- Resolves the issuer of a kind and name that a request of a namespace refers to. -/
def issuer (kind : IssuerKind) (name requestNs clusterNs : String) :
    Plan σ (Except ReconcileError ResolvedIssuer) :=
  let key := IssuerKey.referred kind requestNs name
  (Plan.perform (.readIssuer key)).bind fun
    | .error e => Plan.fail (.issuerLookup key.display e)
    | .ok i => .done (ofIssuer key requestNs clusterNs i)

/-- The error for a secret that could not be read. -/
def secretError (e : StoreError) : ReconcileError :=
  if e.isNotFound then .credentialNotFound e else .store e

/-- The selected value of a secret. -/
def select (selector : SecretKeySelector) (s : Secret) : Except ReconcileError Bytes :=
  match s.value? selector.key with
  | some value => .ok value
  | none => .error (.missingCredentialKey selector.name selector.key)

/-- Resolves the service key that a selector names in a namespace. -/
def credential (ns : String) (selector : SecretKeySelector) :
    Plan σ (Except ReconcileError Bytes) :=
  (Plan.perform (.readSecret ⟨ns, selector.name⟩)).bind fun
    | .error e => Plan.fail (secretError e)
    | .ok s => .done (select selector s)

end Resolve
end CertIssuer

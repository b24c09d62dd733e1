import CertIssuer.Reconcile.Request

/-!
The reconcile of an issuer: an issuer is ready as long as its service key can be read, and its Ready
condition says so.
-/

namespace CertIssuer.Readiness

open RequestReconcile (transition? noteIfAny measured)

/-- What is wrong with the specification of an issuer. -/
def validate (spec : IssuerSpec) : Except ReconcileError Unit :=
  if Text.isBlankText spec.serviceKeyRef.name then
    .error (.invalidIssuer "spec.auth.serviceKeyRef.name must be set")
  else if Text.isBlankText spec.serviceKeyRef.key then
    .error (.invalidIssuer "spec.auth.serviceKeyRef.key must be set")
  else .ok ()

/-- An issuer with its Ready condition set. -/
def withReady (i : Issuer) (status : Truth) (reason message : String) (now : Instant) : Issuer :=
  { i with
    status := some
      ⟨Conditions.set i.conditions Condition.ready status reason message now⟩ }

variable {σ : Type}

/-- Writes the status of an issuer whose key was looked for, and ends with what was found. A key
that could not be read counts before a status that could not be written. -/
def persist (kind : IssuerKind) (i : Issuer) (found : Except ReconcileError Unit) :
    Plan σ (Except ReconcileError Unit) :=
  (Plan.perform (.writeIssuer kind i)).bind fun written =>
    match found, written with
    | .ok (), .ok () => (Plan.note (Log.info "issuer verified" [])).bind fun _ => .done (.ok ())
    | .ok (), .error e => Plan.fail (.store e)
    | .error e, .ok () => Plan.fail e
    | .error e, .error unwritten =>
      (Plan.note (Log.warn "failed to persist issuer status"
          [("error", unwritten.message)])).bind fun _ => Plan.fail e

/-- Records what looking for the key of an issuer showed. -/
def record (kind : IssuerKind) (i : Issuer) (ns : String) (now : Instant)
    (key : Except ReconcileError Bytes) : Plan σ (Except ReconcileError Unit) :=
  match key with
  | .ok _ =>
    (noteIfAny (transition? i.conditions Condition.ready .yes)).bind fun _ =>
      persist kind
        (withReady i .yes Reason.verified (kind.text ++ " verified and ready to sign certificates")
          now) (.ok ())
  | .error e =>
    (Plan.note (Log.error ("failed to retrieve " ++ kind.text ++ " auth secret")
        [("error", e.message), ("secret.namespace", ns),
          ("secret.name", i.spec.serviceKeyRef.name)])).bind fun _ =>
      (noteIfAny (transition? i.conditions Condition.ready .no)).bind fun _ =>
        persist kind
          (withReady i .no e.credentialReason ("Failed to retrieve auth secret: " ++ e.message) now)
          (.error e)

/-- Looks for the key of an issuer in a namespace and records what it finds. An issuer that names no
key is left as it is. -/
def verify (kind : IssuerKind) (i : Issuer) (ns : String) : Plan σ (Except ReconcileError Unit) :=
  match validate i.spec with
  | .error e =>
    (Plan.note (Log.error ("failed to validate " ++ kind.text ++ " resource")
        [("error", e.message)])).bind fun _ => Plan.fail e
  | .ok () =>
    (Plan.perform .now).bind fun now =>
      (Resolve.credential ns i.spec.serviceKeyRef).bind fun key => record kind i ns now key

/-- The namespace of the service key of an issuer; an origin issuer has to have a namespace. -/
def keyNs (kind : IssuerKind) (clusterNs : String) (i : Issuer) : Except ReconcileError String :=
  match kind, i.metadata.ns with
  | .cluster, _ => .ok clusterNs
  | .origin, some ns => .ok ns
  | .origin, none => .error (.store (.missingMetadata kind.text "namespace"))

/-- Reconciles an issuer that was read. -/
def reconcileObject (clusterNs : String) (kind : IssuerKind) (i : Issuer) :
    Plan σ (Except ReconcileError Unit) :=
  match keyNs kind clusterNs i with
  | .error e => Plan.fail e
  | .ok ns => measured kind.text (verify kind i ns)

/-- The event that an issuer does not exist. -/
def missing : IssuerKey → Log.Event
  | .origin key =>
    Log.debug "OriginIssuer not found"
      [("resource.namespace", key.ns), ("resource.name", key.name)]
  | .cluster name => Log.debug "ClusterOriginIssuer not found" [("resource.name", name)]

/-- Reads an issuer and reconciles it; one that no longer exists needs nothing. -/
def reconcile (clusterNs : String) (key : IssuerKey) : Plan σ (Except ReconcileError Unit) :=
  (Plan.perform (.readIssuer key)).bind fun
    | .ok i => reconcileObject clusterNs key.kind i
    | .error e =>
      if e.isNotFound then (Plan.note (missing key)).bind fun _ => .done (.ok ())
      else Plan.fail (.store e)

/-- The reconcile in diagnostics. -/
def describe (clusterNs : String) : String :=
  "IssuerReconciler \x7b cluster_resource_namespace: " ++ Text.quoted clusterNs ++ ", .. \x7d"

end CertIssuer.Readiness

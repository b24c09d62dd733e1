import CertIssuer.Reconcile.Provision
import CertIssuer.Reconcile.Resolve

/-!
The reconcile of a certificate request. First a verdict is reached on the request alone: leave it,
record that it was denied, record that its issuer is of no known kind, or have it signed. Signing
resolves the issuer and its service key, makes one call and records the certificate.

The outcome of every branch is in the status of the request, except that a failure which another
attempt may cure leaves a request that is not settled. A status that cannot be written is reported
in the log only, since the next reconcile finds the same status again.
-/

namespace CertIssuer.RequestReconcile

/-- How requests are reconciled. -/
structure Settings where
  /-- The namespace of the service keys of cluster issuers. -/
  clusterNs : String
  /-- Whether requests wait for their approval. -/
  checkApproval : Bool
  deriving DecidableEq

/-! ### Verdicts -/

/-- What is to be done with a request. -/
inductive Verdict where
  /-- Nothing, for the reason in the event. -/
  | leave (event : Log.Event)
  /-- Record that it was denied. -/
  | deny
  /-- It has no namespace to look for its issuer in. -/
  | homeless
  /-- Record that there is no such kind of issuer. -/
  | unknownKind (kind : String)
  /-- Have it signed by the issuer of that kind, seen from that namespace. -/
  | sign (kind : IssuerKind) (ns : String)
  deriving DecidableEq

/-- Whether a request is meant for issuers of the group here. -/
def isOurs (reference : IssuerReference) : Bool :=
  match reference.group with
  | none => true
  | some group => group = "" || group = issuerGroup

/-- The verdict on a request that no earlier reconcile settled and that may be signed. -/
def verdictOnIssuer (r : CertificateRequest) : Verdict :=
  match r.metadata.ns with
  | none => .homeless
  | some ns =>
    let kind := r.spec.issuerRef.kind.getD ""
    match IssuerKind.ofText? kind with
    | none => .unknownKind kind
    | some kind => .sign kind ns

/-- The verdict on a request. -/
def verdict (settings : Settings) (r : CertificateRequest) : Verdict :=
  let has := Conditions.has r.conditions
  let notReadyFor := Conditions.hasWithReason r.conditions Condition.ready .no
  if !isOurs r.spec.issuerRef then
    .leave (Log.debug "issuerRef group is not ours; ignoring"
      [("group", r.spec.issuerRef.group.getD "")])
  else if has Condition.ready .yes then
    .leave (Log.debug "CertificateRequest is Ready; ignoring" [])
  else if notReadyFor Reason.failed then
    .leave (Log.debug "CertificateRequest is Failed; ignoring" [])
  else if notReadyFor Reason.denied then
    .leave (Log.debug
      "CertificateRequest already has a Ready condition with Denied reason; ignoring" [])
  else if has Condition.denied .yes then .deny
  else if settings.checkApproval && !has Condition.approved .yes then
    .leave (Log.debug "CertificateRequest has not been approved" [])
  else if r.hasCertificate then
    .leave (Log.debug
      "existing certificate data found in status; skipping completed request" [])
  else if r.spec.isCA then
    .leave (Log.info "Origin CA does not support signing of CA certificates" [])
  else verdictOnIssuer r

/-! ### Recording -/

/-- A request with its Ready condition set. -/
def withReady (r : CertificateRequest) (status : Truth) (reason message : String)
    (now : Instant) : CertificateRequest :=
  { r with
    status := some { r.statusOrEmpty with
      conditions := Conditions.set r.conditions Condition.ready status reason message now } }

/-- A denied request, with the time of its failure unless there is one already. -/
def withFailureTime (r : CertificateRequest) (now : Instant) : CertificateRequest :=
  { r with
    status := some { r.statusOrEmpty with
      failureTime := some (r.statusOrEmpty.failureTime.getD now.format) } }

/-- A request with its certificate. -/
def withCertificate (r : CertificateRequest) (certificate : Bytes) : CertificateRequest :=
  { r with status := some { r.statusOrEmpty with certificate := certificate } }

/-- The event that a condition which was there before changes its status. -/
def transition? (conditions : List Condition) (type : String) (status : Truth) :
    Option Log.Event :=
  match Conditions.status? conditions type with
  | none => none
  | some old =>
    if old = status then none
    else
      some (Log.info "found status change for condition; setting lastTransitionTime"
        [("condition", type), ("old_status", old.text), ("new_status", status.text)])

variable {σ : Type}

/-- Writes an event to the log if there is one. -/
def noteIfAny : Option Log.Event → Plan σ Unit
  | some event => Plan.note event
  | none => .done ()

/-- Sets the Ready condition of a request and writes its status. -/
def record (r : CertificateRequest) (status : Truth) (reason message : String) : Plan σ Unit :=
  (Plan.perform .now).bind fun now =>
    (noteIfAny (transition? r.conditions Condition.ready status)).bind fun _ =>
      (Plan.perform (.writeRequest (withReady r status reason message now))).bind fun
        | .ok () => .done ()
        | .error e =>
          Plan.note (Log.warn "failed to update CertificateRequest status"
            [("error", e.message), ("reason", reason)])

/-- Records a failure, and ends with an error. -/
def recordAndFail (r : CertificateRequest) (reason message : String) (e : ReconcileError) :
    Plan σ (Except ReconcileError Unit) :=
  (record r .no reason message).bind fun _ => Plan.fail e

/-! ### Branches -/

/-- Records that a request was denied. -/
def deny (r : CertificateRequest) : Plan σ (Except ReconcileError Unit) :=
  (Plan.note (Log.debug "CertificateRequest has been denied; marking as failed" [])).bind fun _ =>
    (Plan.perform .now).bind fun now =>
      (record (withFailureTime r now) .no Reason.denied
        "The CertificateRequest was denied by an approval controller").bind fun _ => .done (.ok ())

/-- Records that the issuer of a request is of no known kind. -/
def refuseKind (r : CertificateRequest) (kind : String) : Plan σ (Except ReconcileError Unit) :=
  let e := ReconcileError.unknownIssuerKind kind
  (Plan.note (Log.error "certificate request references unknown issuer kind"
      [("error", e.message)])).bind fun _ =>
    recordAndFail r Reason.failed ("Unknown issuer kind: " ++ kind) e

/-- What a condition says about an issuer that could not be resolved. -/
def pendingMessage : ReconcileError → String
  | .issuerLookup issuer e =>
    "Failed to retrieve OriginIssuer resource " ++ issuer ++ ": " ++ e.message
  | .issuerNotReady issuer => "OriginIssuer " ++ issuer ++ " is not Ready"
  | other => other.message

/-- Records that a request waits for its issuer. -/
def awaitIssuer (r : CertificateRequest) (e : ReconcileError) :
    Plan σ (Except ReconcileError Unit) :=
  (Plan.note (Log.warn "issuer failed resolution or readiness checks"
      [("error", e.message)])).bind fun _ =>
    recordAndFail r Reason.pending (pendingMessage e) e

/-- Records that a request waits for the service key of its issuer. -/
def awaitCredential (r : CertificateRequest) (issuer : ResolvedIssuer) (e : ReconcileError) :
    Plan σ (Except ReconcileError Unit) :=
  (Plan.note (Log.warn "failed to retrieve issuer auth secret"
      [("error", e.message), ("secret.namespace", issuer.credentialNs),
        ("secret.name", issuer.spec.serviceKeyRef.name)])).bind fun _ =>
    recordAndFail r e.credentialReason ("Failed to retrieve auth secret: " ++ e.message) e

/-- Records a certificate. -/
def issue (r : CertificateRequest) (issuer : ResolvedIssuer) (certificate : Bytes) :
    Plan σ (Except ReconcileError Unit) :=
  (record (withCertificate r certificate) .yes Reason.issued "Certificate issued").bind fun _ =>
    (Plan.tally (.issued issuer.spec.requestType.apiTag)).bind fun _ =>
      (Plan.note (Log.info "certificate issued" [("issuer", issuer.display)])).bind fun _ =>
        .done (.ok ())

/-- The error of a reconcile that ends for good because nothing was signed. -/
def terminalError (e : ProvisionError) : ReconcileError :=
  if e.isMalformed then .malformedInput e else .remoteTerminal e

/-- Ends a reconcile in which nothing was signed: without a trace if the authority may have issued
the certificate all the same, and otherwise for good. -/
def rejected (r : CertificateRequest) (e : ProvisionError) :
    Plan σ (Except ReconcileError Unit) :=
  (Plan.tally (.signFailed e.classify.text)).bind fun _ =>
    match e.classify with
    | .retryable =>
      (Plan.note (Log.warn "requeue-ing after API error" [("error", e.message)])).bind fun _ =>
        Plan.fail (.remoteTransient e)
    | .terminal =>
      (Plan.note (Log.error "failed to sign certificate request"
          [("error", e.message)])).bind fun _ =>
        recordAndFail r Reason.failed ("Failed to sign certificate request: " ++ e.message)
          (terminalError e)

/-- Has a request signed with a service key. -/
def signWith (r : CertificateRequest) (issuer : ResolvedIssuer) (serviceKey : Bytes) :
    Plan σ (Except ReconcileError Unit) :=
  (Plan.perform (.openSigner serviceKey)).bind fun
    | .error chain =>
      (Plan.note (Log.error "failed to create API client"
          [("error", chain.headD "")])).bind fun _ => Plan.fail (.signerFactory chain)
    | .ok signer =>
      (Provision.sign signer issuer.spec.requestType r.spec).bind fun
        | .ok certificate => issue r issuer certificate
        | .error e => rejected r e

/-- Has a request signed by the issuer it names. -/
def signBy (settings : Settings) (r : CertificateRequest) (kind : IssuerKind) (ns : String) :
    Plan σ (Except ReconcileError Unit) :=
  (Resolve.issuer kind r.spec.issuerRef.name ns settings.clusterNs).bind fun
    | .error e => awaitIssuer r e
    | .ok issuer =>
      (Resolve.credential issuer.credentialNs issuer.spec.serviceKeyRef).bind fun
        | .error e => awaitCredential r issuer e
        | .ok serviceKey => signWith r issuer serviceKey

/-- Carries out a verdict. -/
def carryOut (settings : Settings) (r : CertificateRequest) :
    Verdict → Plan σ (Except ReconcileError Unit)
  | .leave event => (Plan.note event).bind fun _ => .done (.ok ())
  | .deny => deny r
  | .homeless => Plan.fail (.store (.missingMetadata CertificateRequest.kind "namespace"))
  | .unknownKind kind => refuseKind r kind
  | .sign kind ns => signBy settings r kind ns

/-! ### Reconciles -/

/-- Counts and times a reconcile of a kind of objects. -/
def measured (kind : String) (p : Plan σ (Except ReconcileError Unit)) :
    Plan σ (Except ReconcileError Unit) :=
  (Plan.tally (.started kind)).bind fun _ =>
    p.bind fun result =>
      (Plan.tally (.finished kind)).bind fun _ =>
        match result with
        | .ok () => .done (.ok ())
        | .error e => (Plan.tally (.failed kind)).bind fun _ => Plan.fail e

/-- Reconciles a request that was read. -/
def reconcileObject (settings : Settings) (r : CertificateRequest) :
    Plan σ (Except ReconcileError Unit) :=
  measured CertificateRequest.kind (carryOut settings r (verdict settings r))

/-- Reads a request and reconciles it; one that no longer exists needs nothing. -/
def reconcile (settings : Settings) (ns name : String) : Plan σ (Except ReconcileError Unit) :=
  (Plan.perform (.readRequest ⟨ns, name⟩)).bind fun
    | .ok r => reconcileObject settings r
    | .error e =>
      if e.isNotFound then
        (Plan.note (Log.debug "CertificateRequest not found"
            [("resource.namespace", ns), ("resource.name", name)])).bind fun _ => .done (.ok ())
      else Plan.fail (.store e)

/-- The reconcile in diagnostics. -/
def Settings.describe (s : Settings) : String :=
  "CertificateRequestReconciler \x7b cluster_resource_namespace: " ++ Text.quoted s.clusterNs
    ++ ", check_approved_condition: " ++ toString s.checkApproval ++ ", .. \x7d"

end CertIssuer.RequestReconcile

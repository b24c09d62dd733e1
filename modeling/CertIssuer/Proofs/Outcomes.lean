import CertIssuer.Proofs.Plans
import CertIssuer.Proofs.Verdicts

/-!
Everything one reconcile of a request can do: which accesses it makes, one after the other, and how
it ends, whatever the store and the authority answer. The cases follow the branches of the
reconcile, and each carries the guards that lead into it.
-/

namespace CertIssuer

variable {σ : Type} {l : List (Access σ)}

namespace Resolve

/-- What is resolved once the issuer was asked for. -/
def ofAnswer (key : IssuerKey) (requestNs clusterNs : String) :
    Except StoreError Issuer → Except ReconcileError ResolvedIssuer
  | .error e => .error (.issuerLookup key.display e)
  | .ok i => ofIssuer key requestNs clusterNs i

/-- The service key, once its secret was asked for. -/
def keyOfAnswer (selector : SecretKeySelector) :
    Except StoreError Secret → Except ReconcileError Bytes
  | .error e => .error (secretError e)
  | .ok s => select selector s

/-- Resolving an issuer reads it, and nothing else. -/
theorem path_issuer {kind : IssuerKind} {name requestNs clusterNs : String}
    {b : Except ReconcileError ResolvedIssuer}
    (h : (issuer kind name requestNs clusterNs : Plan σ _).Path l b) :
    ∃ answer, l = [.readIssuer (.referred kind requestNs name) answer]
      ∧ b = ofAnswer (.referred kind requestNs name) requestNs clusterNs answer := by
  obtain ⟨l₁, answer, l₂, rfl, h₁, h₂⟩ := Plan.path_bind.mp h
  rw [Plan.path_perform.mp h₁]
  cases answer with
  | error e =>
    obtain ⟨rfl, rfl⟩ := h₂
    exact ⟨_, rfl, rfl⟩
  | ok i =>
    obtain ⟨rfl, rfl⟩ := h₂
    exact ⟨_, rfl, rfl⟩

/-- Resolving a service key reads its secret, and nothing else. -/
theorem path_credential {ns : String} {selector : SecretKeySelector}
    {b : Except ReconcileError Bytes} (h : (credential ns selector : Plan σ _).Path l b) :
    ∃ answer, l = [.readSecret ⟨ns, selector.name⟩ answer] ∧ b = keyOfAnswer selector answer := by
  obtain ⟨l₁, answer, l₂, rfl, h₁, h₂⟩ := Plan.path_bind.mp h
  rw [Plan.path_perform.mp h₁]
  cases answer with
  | error e =>
    obtain ⟨rfl, rfl⟩ := h₂
    exact ⟨_, rfl, rfl⟩
  | ok s =>
    obtain ⟨rfl, rfl⟩ := h₂
    exact ⟨_, rfl, rfl⟩

/-- An issuer is resolved when it was read and is ready. -/
theorem ofAnswer_eq_ok {key : IssuerKey} {requestNs clusterNs : String}
    {answer : Except StoreError Issuer} {issuer : ResolvedIssuer} :
    ofAnswer key requestNs clusterNs answer = .ok issuer ↔ ∃ i, answer = .ok i
      ∧ Conditions.has i.conditions Condition.ready .yes = true
      ∧ issuer = ⟨key.kind, key.display, i.spec, key.kind.credentialNs requestNs clusterNs⟩ := by
  cases answer with
  | error e => simp [ofAnswer]
  | ok i =>
    simp only [ofAnswer, ofIssuer]
    by_cases ready : Conditions.has i.conditions Condition.ready .yes = true
    · simp [ready, eq_comm (b := issuer)]
    · simp [ready]

/-- A service key is resolved when its secret was read and holds it. -/
theorem keyOfAnswer_eq_ok {selector : SecretKeySelector} {answer : Except StoreError Secret}
    {serviceKey : Bytes} : keyOfAnswer selector answer = .ok serviceKey
      ↔ ∃ secret, answer = .ok secret ∧ secret.value? selector.key = some serviceKey := by
  cases answer with
  | error e => simp [keyOfAnswer]
  | ok secret =>
    simp only [keyOfAnswer, select]
    cases hvalue : secret.value? selector.key with
    | none => simp [hvalue]
    | some value => simp [hvalue]

/-! ### Errors that another attempt may cure -/

theorem isRetryable_of_ofAnswer {key : IssuerKey} {requestNs clusterNs : String}
    {answer : Except StoreError Issuer} {e : ReconcileError}
    (h : ofAnswer key requestNs clusterNs answer = .error e) : e.isRetryable = true := by
  cases answer with
  | error fault =>
    cases h
    rfl
  | ok i =>
    simp only [ofAnswer, ofIssuer] at h
    split at h
    · cases h
    · cases h
      rfl

theorem isRetryable_of_keyOfAnswer {selector : SecretKeySelector}
    {answer : Except StoreError Secret} {e : ReconcileError}
    (h : keyOfAnswer selector answer = .error e) : e.isRetryable = true := by
  cases answer with
  | error fault =>
    cases h
    unfold secretError
    split <;> rfl
  | ok s =>
    simp only [keyOfAnswer, select] at h
    split at h
    · cases h
    · cases h
      rfl

end Resolve

/-- A request that makes no call is malformed, for good. -/
theorem Provision.malformed_of_signRequest {type : RequestType} {spec : RequestSpec}
    {e : ProvisionError} (h : signRequest type spec = .error e) :
    e.isMalformed = true ∧ e.classify = .terminal := by
  unfold signRequest validity at h
  split at h
  · cases h
    exact ⟨rfl, rfl⟩
  · split at h
    · next hv =>
      split at hv
      · cases hv
      · split at hv <;> cases hv
        cases h
        exact ⟨rfl, rfl⟩
    · cases h

namespace RequestReconcile

variable {settings : Settings} {r : CertificateRequest} {b : Except ReconcileError Unit}

/-! ### What is recorded -/

/-- A request that is recorded as denied. -/
def deniedRecord (r : CertificateRequest) (failed now : Instant) : CertificateRequest :=
  withReady (withFailureTime r failed) .no Reason.denied
    "The CertificateRequest was denied by an approval controller" now

/-- A request that is recorded as not ready for a reason. -/
def unreadyRecord (r : CertificateRequest) (reason message : String) (now : Instant) :
    CertificateRequest := withReady r .no reason message now

/-- A request that is recorded as issued. -/
def issuedRecord (r : CertificateRequest) (certificate : Bytes) (now : Instant) :
    CertificateRequest :=
  withReady (withCertificate r certificate) .yes Reason.issued "Certificate issued" now

/-! ### The cases -/

/-- What follows once a signer was opened. -/
inductive Call (r : CertificateRequest) (issuer : ResolvedIssuer) (signer : σ) :
    List (Access σ) → Except ReconcileError Unit → Prop
  /-- The request is malformed, so no call is made. -/
  | malformed (e : ProvisionError) (now : Instant) (written : Except StoreError Unit)
      (h : Provision.signRequest issuer.spec.requestType r.spec = .error e) :
      Call r issuer signer
        [.writeRequest (unreadyRecord r Reason.failed
          ("Failed to sign certificate request: " ++ e.message) now) written]
        (.error (.malformedInput e))
  | issued (request : SignRequest) (response : SignResponse) (now : Instant)
      (written : Except StoreError Unit)
      (h : Provision.signRequest issuer.spec.requestType r.spec = .ok request) :
      Call r issuer signer
        [.sign signer request (.ok response),
          .writeRequest (issuedRecord r (Text.encodeUtf8 response.certificate) now) written]
        (.ok ())
  /-- The authority may have issued the certificate all the same, so nothing is recorded. -/
  | transient (request : SignRequest) (e : SignError)
      (h : Provision.signRequest issuer.spec.requestType r.spec = .ok request)
      (hclass : (ProvisionError.sign e).classify = .retryable) :
      Call r issuer signer [.sign signer request (.error e)] (.error (.remoteTransient (.sign e)))
  | rejected (request : SignRequest) (e : SignError) (now : Instant)
      (written : Except StoreError Unit)
      (h : Provision.signRequest issuer.spec.requestType r.spec = .ok request)
      (hclass : (ProvisionError.sign e).classify = .terminal) :
      Call r issuer signer
        [.sign signer request (.error e),
          .writeRequest (unreadyRecord r Reason.failed ("Failed to sign certificate request: "
            ++ (ProvisionError.sign e).message) now) written]
        (.error (.remoteTerminal (.sign e)))

/-- What follows for an admitted request of a known issuer kind. -/
inductive Signing (settings : Settings) (r : CertificateRequest) (kind : IssuerKind) (ns : String) :
    List (Access σ) → Except ReconcileError Unit → Prop
  | unresolved (answer : Except StoreError Issuer) (e : ReconcileError) (now : Instant)
      (written : Except StoreError Unit)
      (h : Resolve.ofAnswer (.referred kind ns r.spec.issuerRef.name) ns settings.clusterNs answer
        = .error e) :
      Signing settings r kind ns
        [.readIssuer (.referred kind ns r.spec.issuerRef.name) answer,
          .writeRequest (unreadyRecord r Reason.pending (pendingMessage e) now) written]
        (.error e)
  | keyless (answer : Except StoreError Issuer) (issuer : ResolvedIssuer)
      (secret : Except StoreError Secret) (e : ReconcileError) (now : Instant)
      (written : Except StoreError Unit)
      (h : Resolve.ofAnswer (.referred kind ns r.spec.issuerRef.name) ns settings.clusterNs answer
        = .ok issuer)
      (hkey : Resolve.keyOfAnswer issuer.spec.serviceKeyRef secret = .error e) :
      Signing settings r kind ns
        [.readIssuer (.referred kind ns r.spec.issuerRef.name) answer,
          .readSecret ⟨issuer.credentialNs, issuer.spec.serviceKeyRef.name⟩ secret,
          .writeRequest (unreadyRecord r e.credentialReason
            ("Failed to retrieve auth secret: " ++ e.message) now) written]
        (.error e)
  /-- The service key gives no signer, and nothing is recorded. -/
  | signerless (answer : Except StoreError Issuer) (issuer : ResolvedIssuer)
      (secret : Except StoreError Secret) (serviceKey : Bytes) (chain : List String)
      (h : Resolve.ofAnswer (.referred kind ns r.spec.issuerRef.name) ns settings.clusterNs answer
        = .ok issuer)
      (hkey : Resolve.keyOfAnswer issuer.spec.serviceKeyRef secret = .ok serviceKey) :
      Signing settings r kind ns
        [.readIssuer (.referred kind ns r.spec.issuerRef.name) answer,
          .readSecret ⟨issuer.credentialNs, issuer.spec.serviceKeyRef.name⟩ secret,
          .openSigner serviceKey (.error chain)]
        (.error (.signerFactory chain))
  | opened (answer : Except StoreError Issuer) (issuer : ResolvedIssuer)
      (secret : Except StoreError Secret) (serviceKey : Bytes) (signer : σ)
      (rest : List (Access σ)) (b : Except ReconcileError Unit)
      (h : Resolve.ofAnswer (.referred kind ns r.spec.issuerRef.name) ns settings.clusterNs answer
        = .ok issuer)
      (hkey : Resolve.keyOfAnswer issuer.spec.serviceKeyRef secret = .ok serviceKey)
      (call : Call r issuer signer rest b) :
      Signing settings r kind ns
        (.readIssuer (.referred kind ns r.spec.issuerRef.name) answer
          :: .readSecret ⟨issuer.credentialNs, issuer.spec.serviceKeyRef.name⟩ secret
          :: .openSigner serviceKey (.ok signer) :: rest) b

/-- What one reconcile does to a request that was read, and how it ends. -/
inductive Outcome (settings : Settings) (r : CertificateRequest) :
    List (Access σ) → Except ReconcileError Unit → Prop
  | left (event : Log.Event) (h : verdict settings r = .leave event) :
      Outcome settings r [] (.ok ())
  | denied (failed now : Instant) (written : Except StoreError Unit)
      (h : verdict settings r = .deny) :
      Outcome settings r [.writeRequest (deniedRecord r failed now) written] (.ok ())
  | homeless (h : verdict settings r = .homeless) :
      Outcome settings r [] (.error (.store (.missingMetadata CertificateRequest.kind "namespace")))
  | unknownKind (kind : String) (now : Instant) (written : Except StoreError Unit)
      (h : verdict settings r = .unknownKind kind) :
      Outcome settings r
        [.writeRequest (unreadyRecord r Reason.failed ("Unknown issuer kind: " ++ kind) now)
          written]
        (.error (.unknownIssuerKind kind))
  | signing (kind : IssuerKind) (ns : String) (l : List (Access σ))
      (b : Except ReconcileError Unit) (h : verdict settings r = .sign kind ns)
      (signing : Signing settings r kind ns l b) : Outcome settings r l b

/-! ### Every path is one of the cases -/

theorem path_noteIfAny_bind {event : Option Log.Event} {β : Type} {f : Unit → Plan σ β} {b : β}
    (h : ((noteIfAny event).bind f).Path l b) : (f ()).Path l b := by
  cases event with
  | none => exact h
  | some e => exact Plan.path_note_bind h

/-- Recording makes one write. -/
theorem path_record {status : Truth} {reason message : String} {u : Unit}
    (h : (record r status reason message : Plan σ Unit).Path l u) :
    ∃ now written, l = [.writeRequest (withReady r status reason message now) written] := by
  obtain ⟨now, h⟩ := Plan.path_now_bind h
  obtain ⟨l₁, written, l₂, rfl, h₁, h₂⟩ := Plan.path_bind.mp (path_noteIfAny_bind h)
  rw [Plan.path_perform.mp h₁]
  refine ⟨now, written, ?_⟩
  cases written with
  | ok _ => rw [h₂.1]; rfl
  | error e => rw [Plan.path_note.mp h₂]; rfl

/-- What follows a record sees nothing of it. -/
theorem path_record_bind {status : Truth} {reason message : String} {β : Type}
    {f : Unit → Plan σ β} {b : β} (h : ((record r status reason message).bind f).Path l b) :
    ∃ now written rest, l = .writeRequest (withReady r status reason message now) written :: rest
      ∧ (f ()).Path rest b := by
  obtain ⟨l₁, u, l₂, rfl, h₁, h₂⟩ := Plan.path_bind.mp h
  obtain ⟨now, written, rfl⟩ := path_record h₁
  exact ⟨now, written, l₂, rfl, h₂⟩

theorem path_recordAndFail {reason message : String} {e : ReconcileError}
    (h : (recordAndFail r reason message e : Plan σ _).Path l b) :
    ∃ now written, l = [.writeRequest (unreadyRecord r reason message now) written]
      ∧ b = .error e := by
  obtain ⟨now, written, rest, rfl, rfl, rfl⟩ := path_record_bind h
  exact ⟨now, written, rfl, rfl⟩

theorem path_deny (h : (deny r : Plan σ _).Path l b) :
    ∃ failed now written, l = [.writeRequest (deniedRecord r failed now) written]
      ∧ b = .ok () := by
  obtain ⟨failed, h⟩ := Plan.path_now_bind (Plan.path_note_bind h)
  obtain ⟨now, written, rest, rfl, rfl, rfl⟩ := path_record_bind h
  exact ⟨failed, now, written, rfl, rfl⟩

theorem path_issue {issuer : ResolvedIssuer} {certificate : Bytes}
    (h : (issue r issuer certificate : Plan σ _).Path l b) :
    ∃ now written, l = [.writeRequest (issuedRecord r certificate now) written]
      ∧ b = .ok () := by
  obtain ⟨now, written, rest, rfl, hrest⟩ := path_record_bind h
  obtain ⟨rfl, rfl⟩ := Plan.path_note_bind (Plan.path_tally_bind hrest)
  exact ⟨now, written, rfl, rfl⟩

/-- A failure that may go away leaves no trace, and any other one is recorded. -/
theorem path_rejected {e : ProvisionError} (h : (rejected r e : Plan σ _).Path l b) :
    (e.classify = .retryable ∧ l = [] ∧ b = .error (.remoteTransient e))
      ∨ (e.classify = .terminal ∧ b = .error (terminalError e)
        ∧ ∃ now written, l = [.writeRequest (unreadyRecord r Reason.failed
          ("Failed to sign certificate request: " ++ e.message) now) written]) := by
  replace h := Plan.path_tally_bind h
  cases hclass : e.classify with
  | retryable =>
    rw [hclass] at h
    obtain ⟨rfl, rfl⟩ := Plan.path_note_bind h
    exact .inl ⟨rfl, rfl, rfl⟩
  | terminal =>
    rw [hclass] at h
    obtain ⟨now, written, rfl, rfl⟩ := path_recordAndFail (Plan.path_note_bind h)
    exact .inr ⟨rfl, rfl, now, written, rfl⟩

/-- With a signer at hand, a malformed request makes no call and every other one makes one. -/
theorem call_of_path {issuer : ResolvedIssuer} {signer : σ}
    (h : ((Provision.sign signer issuer.spec.requestType r.spec).bind fun
      | .ok certificate => issue r issuer certificate
      | .error e => rejected r e).Path l b) : Call r issuer signer l b := by
  obtain ⟨l₁, provisioned, l₂, rfl, h₁, h₂⟩ := Plan.path_bind.mp h
  unfold Provision.sign at h₁
  cases hreq : Provision.signRequest issuer.spec.requestType r.spec with
  | error e =>
    rw [hreq] at h₁
    obtain ⟨rfl, rfl⟩ := h₁
    obtain ⟨malformed, terminal⟩ := Provision.malformed_of_signRequest hreq
    rcases path_rejected h₂ with ⟨retryable, _⟩ | ⟨_, rfl, now, written, rfl⟩
    · rw [terminal] at retryable
      cases retryable
    · rw [terminalError, malformed]
      exact .malformed e now written hreq
  | ok request =>
    rw [hreq] at h₁
    obtain ⟨l₃, answer, l₄, rfl, h₃, rfl, rfl⟩ := Plan.path_bind.mp (Plan.path_note_bind h₁)
    rw [Plan.path_perform.mp h₃]
    cases answer with
    | ok response =>
      obtain ⟨now, written, rfl, rfl⟩ := path_issue h₂
      exact .issued request response now written hreq
    | error e =>
      rcases path_rejected h₂ with ⟨retryable, rfl, rfl⟩ | ⟨terminal, rfl, now, written, rfl⟩
      · exact .transient request e hreq retryable
      · exact .rejected request e now written hreq terminal

theorem signing_of_path {kind : IssuerKind} {ns : String}
    (h : (signBy settings r kind ns : Plan σ _).Path l b) : Signing settings r kind ns l b := by
  obtain ⟨l₁, resolved, l₂, rfl, h₁, h₂⟩ := Plan.path_bind.mp h
  obtain ⟨answer, rfl, hresolved⟩ := Resolve.path_issuer h₁
  cases resolved with
  | error e =>
    obtain ⟨now, written, rfl, rfl⟩ := path_recordAndFail (Plan.path_note_bind h₂)
    exact .unresolved answer e now written hresolved.symm
  | ok issuer =>
    obtain ⟨l₃, key, l₄, rfl, h₃, h₄⟩ := Plan.path_bind.mp h₂
    obtain ⟨secret, rfl, hkey⟩ := Resolve.path_credential h₃
    cases key with
    | error e =>
      obtain ⟨now, written, rfl, rfl⟩ := path_recordAndFail (Plan.path_note_bind h₄)
      exact .keyless answer issuer secret e now written hresolved.symm hkey.symm
    | ok serviceKey =>
      obtain ⟨l₅, opened, l₆, rfl, h₅, h₆⟩ := Plan.path_bind.mp h₄
      rw [Plan.path_perform.mp h₅]
      cases opened with
      | error chain =>
        obtain ⟨rfl, rfl⟩ := Plan.path_note_bind h₆
        exact .signerless answer issuer secret serviceKey chain hresolved.symm hkey.symm
      | ok signer =>
        exact .opened answer issuer secret serviceKey signer l₆ b hresolved.symm hkey.symm
          (call_of_path h₆)

/-- Measuring changes neither the accesses nor the end. -/
theorem path_measured {kind : String} {p : Plan σ (Except ReconcileError Unit)}
    (h : (measured kind p).Path l b) : p.Path l b := by
  obtain ⟨l₁, result, l₂, rfl, h₁, h₂⟩ := Plan.path_bind.mp (Plan.path_tally_bind h)
  replace h₂ := Plan.path_tally_bind h₂
  cases result with
  | ok u =>
    obtain ⟨rfl, rfl⟩ := h₂
    simpa using h₁
  | error e =>
    obtain ⟨rfl, rfl⟩ := Plan.path_tally_bind h₂
    simpa using h₁

/-- Every path of a reconcile is one of the cases. -/
theorem outcome_of_path (h : (reconcileObject settings r : Plan σ _).Path l b) :
    Outcome settings r l b := by
  replace h := path_measured h
  cases hv : verdict settings r with
  | leave event =>
    rw [hv] at h
    obtain ⟨rfl, rfl⟩ := Plan.path_note_bind h
    exact .left event hv
  | deny =>
    rw [hv] at h
    obtain ⟨failed, now, written, rfl, rfl⟩ := path_deny h
    exact .denied failed now written hv
  | homeless =>
    rw [hv] at h
    obtain ⟨rfl, rfl⟩ := h
    exact .homeless hv
  | unknownKind kind =>
    rw [hv] at h
    obtain ⟨now, written, rfl, rfl⟩ := path_recordAndFail (Plan.path_note_bind h)
    exact .unknownKind kind now written hv
  | sign kind ns =>
    rw [hv] at h
    exact .signing kind ns l b hv (signing_of_path h)

/-- Nothing follows where the object of a reconcile could not be read. -/
theorem path_unread {e : StoreError} {event : Log.Event}
    (h : (if e.isNotFound then (Plan.note event).bind fun _ => .done (.ok ())
      else Plan.fail (.store e) : Plan σ _).Path l b) :
    l = [] ∧ b = if e.isNotFound then .ok () else .error (.store e) := by
  by_cases hfound : e.isNotFound = true
  · rw [if_pos hfound] at h ⊢
    exact Plan.path_note_bind h
  · rw [if_neg hfound] at h ⊢
    exact h

/-- A reconcile reads its request first. A request that cannot be read is left alone, and it is an
error unless the request does not exist. -/
theorem path_reconcile {ns name : String} (h : (reconcile settings ns name : Plan σ _).Path l b) :
    (∃ r rest, l = .readRequest ⟨ns, name⟩ (.ok r) :: rest ∧ Outcome settings r rest b)
      ∨ ∃ e, l = [.readRequest ⟨ns, name⟩ (.error e)]
        ∧ b = if e.isNotFound then .ok () else .error (.store e) := by
  obtain ⟨l₁, answer, l₂, rfl, h₁, h₂⟩ := Plan.path_bind.mp h
  rw [Plan.path_perform.mp h₁]
  cases answer with
  | ok r => exact .inl ⟨r, l₂, rfl, outcome_of_path h₂⟩
  | error e =>
    obtain ⟨rfl, hb⟩ := path_unread h₂
    exact .inr ⟨e, rfl, hb⟩

end RequestReconcile
end CertIssuer

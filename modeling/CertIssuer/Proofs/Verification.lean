import CertIssuer.Proofs.Outcomes
import CertIssuer.Proofs.Serving
import CertIssuer.Reconcile.Readiness

/-!
Everything one reconcile of an issuer can do: it looks for the service key and records what it finds
in the status of the issuer. The requests are none of its business, and it leaves them as they are.
-/

namespace CertIssuer

variable {σ ω : Type}

namespace Readiness

variable {clusterNs : String} {kind : IssuerKind} {i : Issuer} {l : List (Access σ)}
  {b : Except ReconcileError Unit}

/-- An issuer that is recorded as verified. -/
def verifiedRecord (kind : IssuerKind) (i : Issuer) (now : Instant) : Issuer :=
  withReady i .yes Reason.verified (kind.text ++ " verified and ready to sign certificates") now

/-- An issuer that is recorded as without its service key. -/
def keylessRecord (i : Issuer) (e : ReconcileError) (now : Instant) : Issuer :=
  withReady i .no e.credentialReason ("Failed to retrieve auth secret: " ++ e.message) now

/-- What one reconcile does to an issuer that was read, and how it ends. -/
inductive Check (clusterNs : String) (kind : IssuerKind) (i : Issuer) :
    List (Access σ) → Except ReconcileError Unit → Prop
  | homeless (e : ReconcileError) (h : keyNs kind clusterNs i = .error e) :
      Check clusterNs kind i [] (.error e)
  | invalid (e : ReconcileError) (h : validate i.spec = .error e) :
      Check clusterNs kind i [] (.error e)
  | verified (ns : String) (secret : Except StoreError Secret) (serviceKey : Bytes) (now : Instant)
      (written : Except StoreError Unit) (h : keyNs kind clusterNs i = .ok ns)
      (hvalid : validate i.spec = .ok ())
      (hkey : Resolve.keyOfAnswer i.spec.serviceKeyRef secret = .ok serviceKey) :
      Check clusterNs kind i
        [.readSecret ⟨ns, i.spec.serviceKeyRef.name⟩ secret,
          .writeIssuer kind (verifiedRecord kind i now) written]
        (written.mapError .store)
  | keyless (ns : String) (secret : Except StoreError Secret) (e : ReconcileError) (now : Instant)
      (written : Except StoreError Unit) (h : keyNs kind clusterNs i = .ok ns)
      (hvalid : validate i.spec = .ok ())
      (hkey : Resolve.keyOfAnswer i.spec.serviceKeyRef secret = .error e) :
      Check clusterNs kind i
        [.readSecret ⟨ns, i.spec.serviceKeyRef.name⟩ secret,
          .writeIssuer kind (keylessRecord i e now) written]
        (.error e)

/-! ### Every path is one of the cases -/

/-- A key that could not be found counts before a status that could not be written. -/
theorem path_persist {found : Except ReconcileError Unit}
    (h : (persist kind i found : Plan σ _).Path l b) :
    ∃ written, l = [.writeIssuer kind i written]
      ∧ b = found.bind fun _ => written.mapError .store := by
  obtain ⟨l₁, written, l₂, rfl, h₁, h₂⟩ := Plan.path_bind.mp h
  rw [Plan.path_perform.mp h₁]
  refine ⟨written, ?_⟩
  cases found with
  | ok u =>
    cases written with
    | ok _ =>
      obtain ⟨rfl, rfl⟩ := Plan.path_note_bind h₂
      exact ⟨rfl, rfl⟩
    | error fault =>
      obtain ⟨rfl, rfl⟩ := h₂
      exact ⟨rfl, rfl⟩
  | error e =>
    cases written with
    | ok _ =>
      obtain ⟨rfl, rfl⟩ := h₂
      exact ⟨rfl, rfl⟩
    | error fault =>
      obtain ⟨rfl, rfl⟩ := Plan.path_note_bind h₂
      exact ⟨rfl, rfl⟩

theorem check_of_path (h : (reconcileObject clusterNs kind i : Plan σ _).Path l b) :
    Check clusterNs kind i l b := by
  unfold reconcileObject at h
  split at h
  · next e hns =>
    obtain ⟨rfl, rfl⟩ := h
    exact .homeless e hns
  · next ns hns =>
    replace h := RequestReconcile.path_measured h
    unfold verify at h
    split at h
    · next e hvalid =>
      obtain ⟨rfl, rfl⟩ := Plan.path_note_bind h
      exact .invalid e hvalid
    · next hvalid =>
      obtain ⟨now, h⟩ := Plan.path_now_bind h
      obtain ⟨l₁, key, l₂, rfl, h₁, h₂⟩ := Plan.path_bind.mp h
      obtain ⟨secret, rfl, hkey⟩ := Resolve.path_credential h₁
      cases key with
      | ok serviceKey =>
        obtain ⟨written, rfl, rfl⟩ := path_persist (RequestReconcile.path_noteIfAny_bind h₂)
        exact .verified ns secret serviceKey now written hns hvalid hkey.symm
      | error e =>
        obtain ⟨written, rfl, rfl⟩ :=
          path_persist (RequestReconcile.path_noteIfAny_bind (Plan.path_note_bind h₂))
        exact .keyless ns secret e now written hns hvalid hkey.symm

/-- A reconcile reads its issuer first. An issuer that cannot be read is left alone, and it is an
error unless the issuer does not exist. -/
theorem path_reconcile {key : IssuerKey} (h : (reconcile clusterNs key : Plan σ _).Path l b) :
    (∃ i rest, l = .readIssuer key (.ok i) :: rest ∧ Check clusterNs key.kind i rest b)
      ∨ ∃ e, l = [.readIssuer key (.error e)]
        ∧ b = if e.isNotFound then .ok () else .error (.store e) := by
  obtain ⟨l₁, answer, l₂, rfl, h₁, h₂⟩ := Plan.path_bind.mp h
  rw [Plan.path_perform.mp h₁]
  cases answer with
  | ok i => exact .inl ⟨i, l₂, rfl, check_of_path h₂⟩
  | error e =>
    obtain ⟨rfl, hb⟩ := RequestReconcile.path_unread h₂
    exact .inr ⟨e, rfl, hb⟩

/-- A reconcile of an issuer writes no request. -/
theorem no_write_of_path {key : IssuerKey} (h : (reconcile clusterNs key : Plan σ _).Path l b)
    (r : CertificateRequest) (written : Except StoreError Unit) : .writeRequest r written ∉ l := by
  rcases path_reconcile h with ⟨i, rest, rfl, check⟩ | ⟨e, rfl, _⟩
  · cases check <;> simp
  · simp

end Readiness

/-- A reconcile of an issuer leaves the requests as they are. -/
theorem World.requests_of_readiness (a : Authority σ ω) (clusterNs : String) (key : IssuerKey)
    (w : World ω) :
    (w.run a (Readiness.reconcile clusterNs key)).2.store.requests = w.store.requests :=
  (w.trace_run a (Readiness.reconcile clusterNs key)).requests_eq
    (Readiness.no_write_of_path (Plan.path_run (handler a) _ w))

end CertIssuer

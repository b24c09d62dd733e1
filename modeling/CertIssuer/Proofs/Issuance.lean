import CertIssuer.Proofs.Correspondence

/-!
Where an issued certificate comes from. A reconcile records the text that the authority returned, as
it is, and does not look into it. So the record that a certificate was issued is one of a
certificate exactly if that text is not empty, and it is the last one that is made.
-/

namespace CertIssuer

variable {σ : Type}

/-- The authority returned this certificate in one of the accesses. -/
def Returned (certificate : String) (l : List (Access σ)) : Prop :=
  ∃ signer request response, .sign signer request (.ok response) ∈ l
    ∧ response.certificate = certificate

theorem Returned.mono {certificate : String} {l l' : List (Access σ)}
    (h : Returned certificate l) (sub : ∀ x ∈ l, x ∈ l') : Returned certificate l' := by
  obtain ⟨signer, request, response, mem, rfl⟩ := h
  exact ⟨signer, request, response, sub _ mem, rfl⟩

namespace RequestReconcile

variable {settings : Settings} {r r' : CertificateRequest} {l : List (Access σ)}
  {b : Except ReconcileError Unit} {written : Except StoreError Unit} {reason message : String}
  {now : Instant}

/-- The request says that its certificate was issued. -/
def SaysIssued (r : CertificateRequest) : Prop :=
  Conditions.hasWithReason r.conditions Condition.ready .yes Reason.issued = true

/-- Of the records over a request that is still open, only the one of a certificate says so. -/
theorem not_saysIssued_unready (h : r.isTerminal = false) :
    ¬ SaysIssued (unreadyRecord r reason message now) := by
  intro hissued
  cases hissued.symm.trans (Records.not_issued_of_no h rfl)

theorem not_saysIssued_denied {failed : Instant} (h : r.isTerminal = false) :
    ¬ SaysIssued (deniedRecord r failed now) := by
  intro hissued
  cases hissued.symm.trans (Records.not_issued_of_no (r := withFailureTime r failed) h rfl)

/-- What is recorded as issued was returned by the call before. -/
theorem returned_of_call {issuer : ResolvedIssuer} {signer : σ} (h : r.isTerminal = false)
    (call : Call r issuer signer l b) (mem : .writeRequest r' written ∈ l)
    (issued : SaysIssued r') : ∃ certificate now, Returned certificate l
      ∧ r' = issuedRecord r (Text.encodeUtf8 certificate) now := by
  cases call with
  | malformed e now _ _ =>
    cases List.mem_singleton.mp mem
    exact (not_saysIssued_unready h issued).elim
  | issued request response now _ _ =>
    rcases List.mem_cons.mp mem with hsign | hwrite
    · cases hsign
    · cases List.mem_singleton.mp hwrite
      exact ⟨response.certificate, now,
        ⟨signer, request, response, List.mem_cons_self, rfl⟩, rfl⟩
  | transient request e _ _ => cases List.mem_singleton.mp mem
  | rejected request e now _ _ _ =>
    rcases List.mem_cons.mp mem with hsign | hwrite
    · cases hsign
    · cases List.mem_singleton.mp hwrite
      exact (not_saysIssued_unready h issued).elim

theorem returned_of_signing {kind : IssuerKind} {ns : String} (h : r.isTerminal = false)
    (signing : Signing settings r kind ns l b) (mem : .writeRequest r' written ∈ l)
    (issued : SaysIssued r') : ∃ certificate now, Returned certificate l
      ∧ r' = issuedRecord r (Text.encodeUtf8 certificate) now := by
  cases signing with
  | unresolved answer e now _ _ =>
    rcases List.mem_cons.mp mem with hread | hwrite
    · cases hread
    · cases List.mem_singleton.mp hwrite
      exact (not_saysIssued_unready h issued).elim
  | keyless answer issuer secret e now _ _ _ =>
    simp only [List.mem_cons, List.not_mem_nil, or_false, reduceCtorEq, false_or] at mem
    cases mem
    exact (not_saysIssued_unready h issued).elim
  | signerless answer issuer secret serviceKey chain _ _ => simp at mem
  | opened answer issuer secret serviceKey signer rest _ _ _ call =>
    simp only [List.mem_cons, reduceCtorEq, false_or] at mem
    obtain ⟨certificate, now, returned, hrecord⟩ := returned_of_call h call mem issued
    refine ⟨certificate, now, returned.mono fun x hx => ?_, hrecord⟩
    exact List.mem_cons_of_mem _ (List.mem_cons_of_mem _ (List.mem_cons_of_mem _ hx))

/-- Whatever a reconcile records as issued, the authority has returned. -/
theorem returned_of_outcome (outcome : Outcome settings r l b)
    (mem : .writeRequest r' written ∈ l) (issued : SaysIssued r') :
    ∃ certificate now, Returned certificate l
      ∧ r' = issuedRecord r (Text.encodeUtf8 certificate) now := by
  have open_ := (records_of_outcome outcome mem).notTerminal
  cases outcome with
  | left event _ => cases mem
  | denied failed now _ _ =>
    cases List.mem_singleton.mp mem
    exact (not_saysIssued_denied open_ issued).elim
  | homeless _ => cases mem
  | unknownKind kind now _ _ =>
    cases List.mem_singleton.mp mem
    exact (not_saysIssued_unready open_ issued).elim
  | signing kind ns _ _ _ signing => exact returned_of_signing open_ signing mem issued

/-- A certificate is recorded unless its text is empty. -/
theorem hasCertificate_issuedRecord (r : CertificateRequest) (certificate : String)
    (now : Instant) :
    CertificateRequest.hasCertificate (issuedRecord r (Text.encodeUtf8 certificate) now) = true
      ↔ certificate ≠ "" := by
  have hbytes : CertificateRequest.hasCertificate
      (issuedRecord r (Text.encodeUtf8 certificate) now)
        = !(Text.encodeUtf8 certificate).isEmpty := rfl
  rw [hbytes, Bool.not_eq_true', ← Bool.not_eq_true, List.isEmpty_iff, Text.encodeUtf8_eq_nil]

/-- The record that a certificate was issued, whatever the store and the authority answer: it
settles the request for good, its certificate is the text that the authority returned just before,
byte for byte, and so there is one exactly if that text is not empty. -/
theorem certificate_of_issued {ns name : String}
    (path : (reconcile settings ns name : Plan σ _).Path l b)
    (mem : .writeRequest r' written ∈ l) (issued : SaysIssued r') :
    r'.isTerminal = true ∧ ∃ certificate, Returned certificate l
      ∧ r'.statusOrEmpty.certificate = Text.encodeUtf8 certificate
      ∧ (r'.hasCertificate = true ↔ certificate ≠ "") := by
  rcases path_reconcile path with ⟨r, rest, rfl, outcome⟩ | ⟨e, rfl, _⟩
  · simp only [List.mem_cons, reduceCtorEq, false_or] at mem
    obtain ⟨certificate, now, returned, rfl⟩ := returned_of_outcome outcome mem issued
    exact ⟨isTerminal_issuedRecord r _ now, certificate,
      returned.mono fun x hx => List.mem_cons_of_mem _ hx, rfl,
      hasCertificate_issuedRecord r certificate now⟩
  · cases List.mem_singleton.mp mem

/-- The sample request, approved. -/
def approvedRequest : CertificateRequest :=
  (Sample.request [Sample.condition Condition.approved] [] none).atVersion "1"

/-- A world in which the sample request can be signed, with this text for a certificate. -/
def certifying (certificate : String) : World Script :=
  World.answering [.certificate certificate] World.signable

theorem certificate_of_issued_signed :
    let accesses := (reconcile Sample.settings "default" "web").accesses
      (World.handler Script.authority) (certifying "signed")
    let record := issuedRecord approvedRequest (Text.encodeUtf8 "signed") 0
    .writeRequest record (.ok ()) ∈ accesses ∧ SaysIssued record ∧ record.isTerminal = true
      ∧ Returned "signed" accesses ∧ record.hasCertificate = true := by
  intro accesses record
  have path := Plan.path_run (World.handler Script.authority)
    (reconcile Sample.settings "default" "web") (certifying "signed")
  have mem : .writeRequest record (.ok ()) ∈ accesses := List.mem_of_getElem? (i := 5) rfl
  have issued : SaysIssued record := Conditions.hasWithReason_set
  obtain ⟨settled, certificate, returned, hbytes, hcertificate⟩ :=
    certificate_of_issued path mem issued
  obtain rfl : "signed" = certificate := Text.encodeUtf8_inj.mp hbytes
  exact ⟨mem, issued, settled, returned, hcertificate.mpr (by decide)⟩

/-- A certificate without any text is recorded as issued all the same, and the request is settled
for good. -/
theorem issued_without_certificate :
    ∃ o, ((certifying "").run Script.authority
        (reconcile Sample.settings "default" "web")).2.store.requests.get? Sample.key = some o
      ∧ SaysIssued o ∧ o.isTerminal = true ∧ o.statusOrEmpty.certificate = [] := by
  refine ⟨(issuedRecord approvedRequest [] 0).atVersion "3", ?_⟩
  unfold SaysIssued
  decide +kernel

end RequestReconcile
end CertIssuer

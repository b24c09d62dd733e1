import CertIssuer.Proofs.Outcomes

/-!
What a reconcile may write over the copy it has read: the three kinds of records, what entitles the
reconcile to each of them, and what each of them leaves as it was.
-/

namespace CertIssuer.RequestReconcile

variable {settings : Settings} {r r' : CertificateRequest}

/-- The request that a reconcile with these settings may write over its copy `r`. -/
inductive Records (settings : Settings) (r : CertificateRequest) : CertificateRequest → Prop
  | denied (failed now : Instant) (h : Denied r) : Records settings r (deniedRecord r failed now)
  | unready (reason message : String) (now : Instant) (h : Admitted settings r) :
      Records settings r (unreadyRecord r reason message now)
  | issued (certificate : Bytes) (now : Instant) (h : Admitted settings r) :
      Records settings r (issuedRecord r certificate now)

/-! ### A reconcile writes nothing else -/

theorem records_of_call {σ : Type} {issuer : ResolvedIssuer} {signer : σ} {l : List (Access σ)}
    {b : Except ReconcileError Unit} {written : Except StoreError Unit}
    (admitted : Admitted settings r) (call : Call r issuer signer l b)
    (mem : .writeRequest r' written ∈ l) : Records settings r r' := by
  cases call with
  | malformed e now _ _ =>
    cases List.mem_singleton.mp mem
    exact .unready _ _ now admitted
  | issued request response now _ _ =>
    rcases List.mem_cons.mp mem with hsign | hwrite
    · cases hsign
    · cases List.mem_singleton.mp hwrite
      exact .issued _ now admitted
  | transient request e _ _ =>
    cases List.mem_singleton.mp mem
  | rejected request e now _ _ _ =>
    rcases List.mem_cons.mp mem with hsign | hwrite
    · cases hsign
    · cases List.mem_singleton.mp hwrite
      exact .unready _ _ now admitted

theorem records_of_signing {σ : Type} {kind : IssuerKind} {ns : String} {l : List (Access σ)}
    {b : Except ReconcileError Unit} {written : Except StoreError Unit}
    (admitted : Admitted settings r) (signing : Signing settings r kind ns l b)
    (mem : .writeRequest r' written ∈ l) : Records settings r r' := by
  cases signing with
  | unresolved answer e now _ _ =>
    rcases List.mem_cons.mp mem with hread | hwrite
    · cases hread
    · cases List.mem_singleton.mp hwrite
      exact .unready _ _ now admitted
  | keyless answer issuer secret e now _ _ _ =>
    simp only [List.mem_cons, List.not_mem_nil, or_false, reduceCtorEq, false_or] at mem
    cases mem
    exact .unready _ _ now admitted
  | signerless answer issuer secret serviceKey chain _ _ =>
    simp at mem
  | opened answer issuer secret serviceKey signer rest _ _ _ call =>
    simp only [List.mem_cons, reduceCtorEq, false_or] at mem
    exact records_of_call admitted call mem

/-- Whatever a reconcile writes, its copy entitles it to. -/
theorem records_of_outcome {σ : Type} {l : List (Access σ)} {b : Except ReconcileError Unit}
    {written : Except StoreError Unit} (outcome : Outcome settings r l b)
    (mem : .writeRequest r' written ∈ l) : Records settings r r' := by
  cases outcome with
  | left event _ => cases mem
  | denied failed now _ h =>
    cases List.mem_singleton.mp mem
    exact .denied failed now (denied_of_verdict h)
  | homeless _ => cases mem
  | unknownKind kind now _ h =>
    cases List.mem_singleton.mp mem
    exact .unready _ _ now (admitted_of_unknownKind h)
  | signing kind ns _ _ h signing => exact records_of_signing (admitted_of_sign h) signing mem

/-! ### What a record leaves as it was -/

namespace Records

/-- Nothing is recorded over a terminal copy. -/
theorem notTerminal (h : Records settings r r') : r.isTerminal = false := by
  cases h with
  | denied failed now h => exact h.notTerminal
  | unready reason message now h => exact h.notTerminal
  | issued certificate now h => exact h.notTerminal

theorem metadata_eq (h : Records settings r r') : r'.metadata = r.metadata := by
  cases h <;> rfl

/-- A certificate is recorded only where there is none. -/
theorem certificate_eq (h : Records settings r r') (hc : r.statusOrEmpty.certificate ≠ []) :
    r'.statusOrEmpty.certificate = r.statusOrEmpty.certificate := by
  cases h with
  | denied failed now h => rfl
  | unready reason message now h => rfl
  | issued certificate now h => exact absurd h.noCertificate hc

/-- A failure time is recorded only where there is none. -/
theorem failureTime_eq {time : String} (h : Records settings r r')
    (ht : r.statusOrEmpty.failureTime = some time) :
    r'.statusOrEmpty.failureTime = some time := by
  cases h with
  | denied failed now h =>
    change some (r.statusOrEmpty.failureTime.getD failed.format) = some time
    rw [ht, Option.getD_some]
  | unready reason message now h => exact ht
  | issued certificate now h => exact ht

/-- Without a terminal condition before, only an issued record is ready. -/
theorem not_issued_of_no {conditions : List Condition} {reason message : String} {now : Instant}
    (h : r.isTerminal = false) (hc : conditions = r.conditions) :
    Conditions.hasWithReason
      (Conditions.set conditions Condition.ready .no reason message now)
      Condition.ready .yes Reason.issued = false := by
  rw [← Bool.not_eq_true]
  intro hissued
  have hready := Conditions.has_of_has_set (by decide) (Conditions.has_of_hasWithReason hissued)
  rw [hc] at hready
  simp [CertificateRequest.isTerminal, hready] at h

/-- A certificate, or the condition that one was issued, is recorded on admitted requests only. -/
theorem admitted (h : Records settings r r')
    (hissue : r'.statusOrEmpty.certificate ≠ r.statusOrEmpty.certificate
      ∨ Conditions.hasWithReason r'.conditions Condition.ready .yes Reason.issued = true) :
    Admitted settings r := by
  cases h with
  | denied failed now h =>
    rcases hissue with hcert | hcond
    · exact absurd rfl hcert
    · exact absurd (hcond.symm.trans (not_issued_of_no h.notTerminal rfl)) (by decide)
  | unready reason message now h => exact h
  | issued certificate now h => exact h

end Records

/-! ### Records that settle a request -/

theorem isTerminal_deniedRecord (r : CertificateRequest) (failed now : Instant) :
    (deniedRecord r failed now).isTerminal = true := by
  have h : Conditions.hasWithReason (deniedRecord r failed now).conditions Condition.ready .no
      Reason.denied = true := Conditions.hasWithReason_set
  rw [CertificateRequest.isTerminal, h, Bool.or_true]

theorem isTerminal_failedRecord (r : CertificateRequest) (message : String) (now : Instant) :
    (unreadyRecord r Reason.failed message now).isTerminal = true := by
  have h : Conditions.hasWithReason (unreadyRecord r Reason.failed message now).conditions
      Condition.ready .no Reason.failed = true := Conditions.hasWithReason_set
  rw [CertificateRequest.isTerminal, h, Bool.or_true, Bool.true_or]

theorem isTerminal_issuedRecord (r : CertificateRequest) (certificate : Bytes) (now : Instant) :
    (issuedRecord r certificate now).isTerminal = true := by
  have h : Conditions.has (issuedRecord r certificate now).conditions Condition.ready .yes
      = true := Conditions.has_set
  rw [CertificateRequest.isTerminal, h, Bool.true_or, Bool.true_or]

end CertIssuer.RequestReconcile

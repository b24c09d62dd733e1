import CertIssuer.Proofs.Conditions
import CertIssuer.Reconcile.Request

/-!
What each verdict says about the request it was reached on. A request is left alone, was denied, or
is admitted to its issuer, and a request whose Ready condition is terminal is always left alone.
-/

namespace CertIssuer

/-- Whether the Ready condition says that nothing more is to be done: the request is ready, failed
for good or denied. -/
def CertificateRequest.isTerminal (r : CertificateRequest) : Bool :=
  Conditions.has r.conditions Condition.ready .yes
    || Conditions.hasWithReason r.conditions Condition.ready .no Reason.failed
    || Conditions.hasWithReason r.conditions Condition.ready .no Reason.denied

namespace RequestReconcile

/-- A denied request that no reconcile has dealt with yet. -/
structure Denied (r : CertificateRequest) : Prop where
  ours : isOurs r.spec.issuerRef = true
  notTerminal : r.isTerminal = false
  denied : Conditions.has r.conditions Condition.denied .yes = true

/-- A request that gets as far as its issuer. -/
structure Admitted (settings : Settings) (r : CertificateRequest) : Prop where
  ours : isOurs r.spec.issuerRef = true
  notTerminal : r.isTerminal = false
  notDenied : Conditions.has r.conditions Condition.denied .yes = false
  approved : settings.checkApproval = true →
    Conditions.has r.conditions Condition.approved .yes = true
  noCertificate : r.statusOrEmpty.certificate = []
  notCA : r.spec.isCA = false

variable {settings : Settings} {r : CertificateRequest}

/-- The group of a request for the issuers here is theirs, empty or not given. -/
theorem group_of_isOurs {reference : IssuerReference} (h : isOurs reference = true) :
    reference.group = none ∨ reference.group = some "" ∨ reference.group = some issuerGroup := by
  unfold isOurs at h
  split at h
  · next hg => exact .inl hg
  · next group hg =>
    rw [hg]
    rcases (by simpa using h : group = "" ∨ group = issuerGroup) with rfl | rfl
    · exact .inr (.inl rfl)
    · exact .inr (.inr rfl)

theorem isOurs_iff {reference : IssuerReference} : isOurs reference = true
    ↔ reference.group = none ∨ reference.group = some "" ∨ reference.group = some issuerGroup := by
  constructor
  · exact group_of_isOurs
  · unfold isOurs
    rintro (h | h | h) <;> simp [h]

/-- The three verdicts on an issuer. -/
theorem verdictOnIssuer_cases (r : CertificateRequest) :
    verdictOnIssuer r = .homeless ∨ (∃ kind, verdictOnIssuer r = .unknownKind kind)
      ∨ ∃ kind ns, verdictOnIssuer r = .sign kind ns := by
  unfold verdictOnIssuer
  split
  · exact .inl rfl
  · dsimp only
    split
    · exact .inr (.inl ⟨_, rfl⟩)
    · exact .inr (.inr ⟨_, _, rfl⟩)

/-- The three ways a verdict goes. -/
theorem verdict_cases (settings : Settings) (r : CertificateRequest) :
    (∃ event, verdict settings r = .leave event)
      ∨ (verdict settings r = .deny ∧ Denied r)
      ∨ (verdict settings r = verdictOnIssuer r ∧ Admitted settings r) := by
  unfold verdict
  -- the guards in the order in which they are looked at
  by_cases ours : isOurs r.spec.issuerRef = true
  case neg => simp [ours]
  by_cases ready : Conditions.has r.conditions Condition.ready .yes = true
  case pos => simp [ours, ready]
  by_cases failed :
      Conditions.hasWithReason r.conditions Condition.ready .no Reason.failed = true
  case pos => simp [ours, ready, failed]
  by_cases refused :
      Conditions.hasWithReason r.conditions Condition.ready .no Reason.denied = true
  case pos => simp [ours, ready, failed, refused]
  have notTerminal : r.isTerminal = false := by
    simp [CertificateRequest.isTerminal, ready, failed, refused]
  by_cases denied : Conditions.has r.conditions Condition.denied .yes = true
  case pos =>
    exact .inr (.inl ⟨by simp [ours, ready, failed, refused, denied], ours, notTerminal, denied⟩)
  by_cases unapproved : (settings.checkApproval
      && !Conditions.has r.conditions Condition.approved .yes) = true
  case pos =>
    left
    simp only [ours, ready, failed, refused, denied, unapproved]
    simp
  by_cases certified : r.hasCertificate = true
  case pos =>
    left
    simp only [ours, ready, failed, refused, denied, unapproved, certified]
    simp
  by_cases ca : r.spec.isCA = true
  case pos =>
    left
    simp only [ours, ready, failed, refused, denied, unapproved, certified, ca]
    simp
  refine .inr (.inr ⟨?_, ours, notTerminal, by simpa using denied, ?_, ?_, by simpa using ca⟩)
  · simp only [ours, ready, failed, refused, denied, unapproved, certified, ca]
    simp
  · intro check
    simpa [check] using unapproved
  · simpa [CertificateRequest.hasCertificate] using certified

/-- The verdict on an admitted request is on its issuer. -/
theorem verdict_of_admitted (h : Admitted settings r) : verdict settings r = verdictOnIssuer r := by
  have unsettled := h.notTerminal
  simp only [CertificateRequest.isTerminal, Bool.or_eq_false_iff] at unsettled
  obtain ⟨⟨ready, failed⟩, refused⟩ := unsettled
  have certified : r.hasCertificate = false := by
    simp [CertificateRequest.hasCertificate, h.noCertificate]
  have unapproved : (settings.checkApproval
      && !Conditions.has r.conditions Condition.approved .yes) = false := by
    cases check : settings.checkApproval with
    | false => rfl
    | true => simp [h.approved check]
  unfold verdict
  simp only [h.ours, ready, failed, refused, h.notDenied, unapproved, certified, h.notCA]
  simp

/-- A request is signed by an issuer of the kind it names, as seen from its namespace. -/
theorem verdictOnIssuer_eq_sign {kind : IssuerKind} {ns : String} :
    verdictOnIssuer r = .sign kind ns
      ↔ r.metadata.ns = some ns ∧ r.spec.issuerRef.kind = some kind.text := by
  unfold verdictOnIssuer
  cases r.metadata.ns with
  | none => simp
  | some home =>
    cases r.spec.issuerRef.kind with
    | none => simp [IssuerKind.ofText?]
    | some text =>
      by_cases horigin : text = "OriginIssuer"
      · subst horigin
        cases kind <;> simp [IssuerKind.ofText?, IssuerKind.text, eq_comm]
      · by_cases hcluster : text = "ClusterOriginIssuer"
        · subst hcluster
          cases kind <;> simp [IssuerKind.ofText?, IssuerKind.text, eq_comm]
        · cases kind <;> simp [IssuerKind.ofText?, IssuerKind.text, horigin, hcluster]

/-- A request is left alone once its Ready condition is terminal. -/
theorem leave_of_isTerminal (settings : Settings) (h : r.isTerminal = true) :
    ∃ event, verdict settings r = .leave event := by
  rcases verdict_cases settings r with left | ⟨_, denied⟩ | ⟨_, admitted⟩
  · exact left
  · exact absurd h (by simp [denied.notTerminal])
  · exact absurd h (by simp [admitted.notTerminal])

/-- Only a denied request is found denied. -/
theorem denied_of_verdict (h : verdict settings r = .deny) : Denied r := by
  rcases verdict_cases settings r with ⟨event, left⟩ | ⟨_, denied⟩ | ⟨onIssuer, _⟩
  · rw [h] at left
    cases left
  · exact denied
  · rw [h] at onIssuer
    rcases verdictOnIssuer_cases r with hv | ⟨kind, hv⟩ | ⟨kind, ns, hv⟩ <;>
      rw [hv] at onIssuer <;> cases onIssuer

/-- Only an admitted request gets a verdict on its issuer. -/
theorem admitted_of_verdict {v : Verdict} (h : verdict settings r = v)
    (hleave : ∀ event, v ≠ .leave event) (hdeny : v ≠ .deny) : Admitted settings r := by
  rcases verdict_cases settings r with ⟨event, left⟩ | ⟨denied, _⟩ | ⟨_, admitted⟩
  · exact absurd (h.symm.trans left) (hleave event)
  · exact absurd (h.symm.trans denied) hdeny
  · exact admitted

theorem admitted_of_unknownKind {kind : String} (h : verdict settings r = .unknownKind kind) :
    Admitted settings r := admitted_of_verdict h nofun nofun

theorem admitted_of_sign {kind : IssuerKind} {ns : String}
    (h : verdict settings r = .sign kind ns) : Admitted settings r :=
  admitted_of_verdict h nofun nofun

end RequestReconcile
end CertIssuer

import CertIssuer.Proofs.Correspondence
import CertIssuer.Proofs.History
import CertIssuer.Proofs.SigningGate

/-!
Failures that may go away never wedge a request. Such a failure writes nothing but the first Ready
condition, and a reason that is no end, so whatever failures a request went through, and in whatever
order, it is as open as it was. The first reconcile that finds all it takes to sign it issues the
certificate.
-/

namespace CertIssuer

variable {σ ω : Type}

namespace RequestReconcile

variable {settings settings' : Settings} {r r' o : CertificateRequest} {calls : List (SignCall σ)}
  {record : Option CertificateRequest} {b : Except ReconcileError Unit} {e : ReconcileError}
  {call : SignCall σ} {response : SignResponse}

/-! ### Requests that stay open -/

/-- Whether a request is admitted is in its specification and its status. -/
theorem Admitted.of_same (h : Admitted settings r) (hspec : o.spec = r.spec)
    (hstatus : o.status = r.status) : Admitted settings o := by
  have hempty : o.statusOrEmpty = r.statusOrEmpty := by
    rw [CertificateRequest.statusOrEmpty, hstatus, CertificateRequest.statusOrEmpty]
  have hconditions : o.conditions = r.conditions := by
    rw [CertificateRequest.conditions, hempty, CertificateRequest.conditions]
  constructor
  · rw [hspec]
    exact h.ours
  · rw [CertificateRequest.isTerminal, hconditions]
    exact h.notTerminal
  · rw [hconditions]
    exact h.notDenied
  · rw [hconditions]
    exact h.approved
  · rw [hempty]
    exact h.noCertificate
  · rw [hspec]
    exact h.notCA

/-- An admitted request stays admitted when a reason that may go away is recorded on it. -/
theorem Admitted.unready {reason : String} (h : Admitted settings r) (passing : IsPassing reason)
    (message : String) (now : Instant) : Admitted settings (unreadyRecord r reason message now) := by
  have unsettled := h.notTerminal
  simp only [CertificateRequest.isTerminal, Bool.or_eq_false_iff] at unsettled
  obtain ⟨⟨ready, failed⟩, refused⟩ := unsettled
  -- of the Ready conditions that settle a request, none was there and none is set
  have notReady : Conditions.has (unreadyRecord r reason message now).conditions Condition.ready .yes
      = false := by
    rw [← Bool.not_eq_true]
    intro hset
    rw [Conditions.has_of_has_set (by decide) hset] at ready
    cases ready
  have notFor : ∀ cause, cause ≠ reason →
      Conditions.hasWithReason r.conditions Condition.ready .no cause = false →
      Conditions.hasWithReason (unreadyRecord r reason message now).conditions Condition.ready .no
        cause = false := by
    intro cause hne before
    rw [← Bool.not_eq_true]
    intro hset
    rcases Conditions.hasWithReason_of_hasWithReason_set hset with hbefore | ⟨_, hcause⟩
    · rw [hbefore] at before
      cases before
    · exact hne hcause
  have notFailed : Reason.failed ≠ reason := by
    rcases passing with rfl | rfl | rfl <;> decide
  have notRefused : Reason.denied ≠ reason := by
    rcases passing with rfl | rfl | rfl <;> decide
  constructor
  · exact h.ours
  · rw [CertificateRequest.isTerminal, notReady, notFor _ notFailed failed,
      notFor _ notRefused refused]
    rfl
  · rw [← h.notDenied]
    exact Conditions.has_set_of_ne (by decide) .yes
  · intro check
    rw [← h.approved check]
    exact Conditions.has_set_of_ne (by decide) .yes
  · exact h.noCertificate
  · exact h.notCA

/-- A request that is as open as `r` is: it may get as far as its issuer, and asks it for the same
from the same namespace. -/
structure StillOpen (settings : Settings) (r o : CertificateRequest) : Prop where
  admitted : Admitted settings o
  spec : o.spec = r.spec
  home : o.metadata.ns = r.metadata.ns

/-- What is recorded with a failure that may go away leaves a request open. -/
theorem Ending.stillOpen (ending : Ending settings' o calls (some r') (.error e))
    (retryable : e.isRetryable = true) (still : StillOpen settings r o) :
    StillOpen settings r r' := by
  cases ending with
  | pending reason message now _ _ passing _ =>
    exact ⟨still.admitted.unready passing message now, still.spec, still.home⟩
  | failed _ message now _ terminal _ _ =>
    rw [retryable] at terminal
    cases terminal

/-! ### Requests that are issued -/

/-- A certificate that was returned is recorded, and the reconcile succeeds. -/
theorem Ending.issued_of_call (ending : Ending settings r calls record b) (mem : call ∈ calls)
    (answered : call.answer = .ok response) :
    b = .ok () ∧ ∃ r', record = some r'
      ∧ Conditions.hasWithReason r'.conditions Condition.ready .yes Reason.issued = true
      ∧ r'.statusOrEmpty.certificate = Text.encodeUtf8 response.certificate := by
  cases ending with
  | left event h => cases mem
  | denied failed now h => cases mem
  | unrecorded calls e retryable transient h =>
    have htransient := transient call mem
    rw [SignCall.isTransient, answered] at htransient
    cases htransient
  | pending reason message now e retryable passing h => cases mem
  | failed calls message now e terminal unsigned h =>
    obtain ⟨fault, hfault⟩ := unsigned call mem
    rw [answered] at hfault
    cases hfault
  | issued only returned now hreturned h =>
    obtain rfl : call = only := List.mem_singleton.mp mem
    rw [answered] at hreturned
    cases hreturned
    exact ⟨rfl, _, rfl, Conditions.hasWithReason_set, rfl⟩

/-- The reconcile ended in an error that may go away. -/
def Retries (b : Except ReconcileError Unit) : Prop :=
  ∃ e, b = .error e ∧ e.isRetryable = true

instance : ∀ b : Except ReconcileError Unit, Decidable (Retries b)
  | .ok _ => .isFalse nofun
  | .error e => decidable_of_iff (e.isRetryable = true)
    ⟨fun h => ⟨e, rfl, h⟩, fun ⟨_, he, h⟩ => Except.error.inj he ▸ h⟩

end RequestReconcile

namespace World

variable {a : Authority σ ω} {w : World ω} {key : ObjectKey} {events : List (Event ω)}
  {settings settings' : RequestReconcile.Settings} {r o : CertificateRequest} {call : SignCall σ}
  {response : SignResponse}

/-! ### Histories of failures -/

/-- An event in which a request is reconciled in vain, or which leaves it as it is: its reconciles
end in errors that may go away, and nobody else changes it. -/
def Retried (a : Authority σ ω) (key : ObjectKey) (w : World ω) : Event ω → Prop
  | .reconcile settings other => other = key → RequestReconcile.Retries
      (w.run a (RequestReconcile.reconcile settings key.ns key.name)).1
  | .change c => (w.store.apply c).requests.get? key = w.store.requests.get? key
  | .reconcileIssuer _ _ | .surround _ _ _ => True

instance (a : Authority σ ω) (key : ObjectKey) (w : World ω) :
    ∀ e : Event ω, Decidable (w.Retried a key e)
  | .reconcile settings other => inferInstanceAs (Decidable (other = key → RequestReconcile.Retries
      (w.run a (RequestReconcile.reconcile settings key.ns key.name)).1))
  | .change c => inferInstanceAs
      (Decidable ((w.store.apply c).requests.get? key = w.store.requests.get? key))
  | .reconcileIssuer _ _ | .surround _ _ _ => inferInstanceAs (Decidable True)

/-- The stored request is as open as `r` is. -/
def Open (settings : RequestReconcile.Settings) (r : CertificateRequest) (key : ObjectKey)
    (w : World ω) : Prop :=
  ∃ o, w.store.requests.get? key = some o ∧ RequestReconcile.StillOpen settings r o

/-- A reconcile in vain leaves the request open. -/
theorem Open.reconcile (still : w.Open settings r key) (keyed : w.store.Keyed)
    (retries : RequestReconcile.Retries
      (w.run a (RequestReconcile.reconcile settings' key.ns key.name)).1) :
    (w.run a (RequestReconcile.reconcile settings' key.ns key.name)).2.Open settings r key := by
  obtain ⟨o, stored, still⟩ := still
  obtain ⟨e, he, retryable⟩ := retries
  cases read : w.readRequest key with
  | error fault =>
    refine ⟨o, ?_, still⟩
    rw [(w.unread_of_run a settings' read).2.2]
    exact stored
  | ok x =>
    obtain rfl : o = x := Option.some.inj (stored.symm.trans (stored_of_readRequest read))
    obtain ⟨record, ending, ⟨hsame, _⟩ | ⟨r', rfl, hstore⟩⟩ :=
      w.ending_of_run a settings' keyed read
    · refine ⟨o, ?_, still⟩
      rw [hsame]
      exact stored
    · -- what was recorded is the deferral that goes with an error that may go away
      rw [he] at ending
      have hopen := ending.stillOpen retryable still
      have hstored := w.store.get?_withStatus r'.status (keyed key o stored)
      rw [← hstore] at hstored
      refine ⟨_, hstored, ?_, still.spec, still.home⟩
      exact hopen.admitted.of_same (still.spec.trans hopen.spec.symm) rfl

/-- A request that is reconciled in vain, or left as it is, stays open. -/
theorem Open.after {e : Event ω} (still : w.Open settings r key) (keyed : w.store.Keyed)
    (retried : w.Retried a key e) : (w.after a e).Open settings r key := by
  have of_same : ∀ {w' : World ω}, w'.store.requests.get? key = w.store.requests.get? key →
      w'.Open settings r key := by
    intro w' hsame
    unfold Open
    rw [hsame]
    exact still
  cases e with
  | reconcile settings' other =>
    by_cases h : other = key
    · subst h
      exact still.reconcile keyed (retried rfl)
    · exact of_same (get?_reconcile_of_ne a settings' keyed (Ne.symm h))
  | reconcileIssuer clusterNs issuer =>
    refine of_same ?_
    rw [World.after, requests_of_readiness]
  | change c => exact of_same retried
  | surround faults now authority => exact still

/-! ### The reconcile that succeeds -/

/-- A supply for a request is one for every request that asks for the same. -/
def Supply.transfer (supply : Supply a settings w r) (hspec : o.spec = r.spec)
    (hns : o.metadata.ns = r.metadata.ns) : Supply a settings w o :=
  { supply with
    home := hns.trans supply.home
    named := by
      rw [hspec]
      exact supply.named }

/-- Where status writes are accepted, a certificate that was returned is stored. -/
theorem stored_of_call (keyed : w.store.Keyed) (accepting : w.Accepting)
    (mem : call ∈ w.callsOf a (RequestReconcile.reconcile settings key.ns key.name))
    (answered : call.answer = .ok response) :
    (w.run a (RequestReconcile.reconcile settings key.ns key.name)).1 = .ok ()
      ∧ ∃ o, (w.run a (RequestReconcile.reconcile settings key.ns
          key.name)).2.store.requests.get? key = some o
        ∧ Conditions.hasWithReason o.conditions Condition.ready .yes Reason.issued = true
        ∧ o.statusOrEmpty.certificate = Text.encodeUtf8 response.certificate := by
  obtain ⟨r, record, ending, hstored⟩ := stored_after_call keyed accepting mem
  obtain ⟨hok, r', hrecord, hissued, hcertificate⟩ := ending.issued_of_call mem answered
  exact ⟨hok, _, hstored r' hrecord, hissued, hcertificate⟩

/-- Suppose a request was eligible once, and has since been reconciled in vain any number of times,
for any reasons that may go away, while everything else changed at will. As soon as the request can
be read and status writes are accepted, its issuer is ready and its service key opens a signer that
answers with a certificate, the next reconcile succeeds, and that very certificate is stored. -/
theorem issued_after_retries {changes : List Change} (reached : w.store = .afterChanges changes)
    (stored : w.store.requests.get? key = some r)
    (eligible : RequestReconcile.Eligible settings r) (retried : w.Along a (Retried a key) events)
    (readable : (w.history a events).faults.lookup .readRequest = none)
    (accepting : (w.history a events).Accepting) (supply : Supply a settings (w.history a events) r)
    {request : SignRequest}
    (payload : RequestReconcile.Payload r.spec supply.issuer.spec.requestType request)
    (answered : (a.sign supply.signer request
      (a.openSigner supply.serviceKey (w.history a events).authority).2).1.1 = .ok response) :
    let ended := (w.history a events).run a (RequestReconcile.reconcile settings key.ns key.name)
    ended.1 = .ok () ∧ ∃ o, ended.2.store.requests.get? key = some o
      ∧ Conditions.hasWithReason o.conditions Condition.ready .yes Reason.issued = true
      ∧ o.statusOrEmpty.certificate = Text.encodeUtf8 response.certificate := by
  have start : w.store.Keyed ∧ w.Open settings r key := by
    have admitted := RequestReconcile.eligible_iff_admitted.mp eligible
    exact ⟨MemoryStore.keyed_of_reached reached, r, stored, admitted, rfl, rfl⟩
  -- what every setback keeps: the request is still there, and as open as it was
  obtain ⟨keyed, o, hstored, still⟩ :=
    retried.keep (I := fun w => w.store.Keyed ∧ w.Open settings r key) start
      fun w e h hretried => ⟨keyed_after a h.1 e, h.2.after h.1 hretried⟩
  have admissible := RequestReconcile.eligible_iff_admitted.mpr still.admitted
  rw [← still.spec] at payload
  have mem := mem_callsOf_of_supply (supply.transfer still.spec still.home)
    (readRequest_of_stored hstored readable) admissible payload
  exact stored_of_call keyed accepting mem answered

/-- An approved request whose issuer is not there yet. -/
def issuerless : List Change :=
  [.insertRequest (Sample.request [Sample.condition Condition.approved] [] none)]

/-- The request is reconciled without an issuer, with one that is not ready, without a service key
while status writes are disabled, and while the authority cannot store certificates. -/
def setbacks : List (Event Script) :=
  [.reconcile Sample.settings Sample.key,
    .change (.insertIssuer .origin { Sample.issuer with status := none }),
    .reconcile Sample.settings Sample.key,
    .change (.insertIssuer .origin Sample.issuer), .change (.allowWrites false),
    .reconcile Sample.settings Sample.key,
    .change (.insertSecret Sample.secret), .change (.allowWrites true),
    .reconcile Sample.settings Sample.key,
    .surround [] 60 { Script.new with replies := [.certificate "signed"] }]

/-- The world after the setbacks. -/
def recovered : World Script :=
  (answering [unstored] issuerless).history Script.authority setbacks

theorem issued_after_retries_setbacks :
    (recovered.run Script.authority
      (RequestReconcile.reconcile Sample.settings Sample.key.ns Sample.key.name)).1 = .ok ()
    ∧ ∃ o, (recovered.run Script.authority (RequestReconcile.reconcile Sample.settings Sample.key.ns
        Sample.key.name)).2.store.requests.get? Sample.key = some o
      ∧ Conditions.hasWithReason o.conditions Condition.ready .yes Reason.issued = true
      ∧ o.statusOrEmpty.certificate = Text.encodeUtf8 "signed" := by
  let r := (Sample.request [Sample.condition Condition.approved] [] none).atVersion "1"
  let request : SignRequest := ⟨[], 7, "origin-rsa", Text.decodeLossy r.spec.request⟩
  have reached : (answering [unstored] issuerless).store = .afterChanges issuerless := rfl
  have stored : (answering [unstored] issuerless).store.requests.get? Sample.key = some r := by
    decide +kernel
  have eligible : RequestReconcile.Eligible Sample.settings r :=
    ⟨.inl rfl, by decide, by decide, by decide, by decide, .inr (by decide), rfl, rfl⟩
  have retried : (answering [unstored] issuerless).Along Script.authority
      (Retried Script.authority Sample.key) setbacks := by decide +kernel
  have faultless : recovered.faults = [] := rfl
  have readable : recovered.faults.lookup .readRequest = none := by
    rw [faultless]
    rfl
  obtain ⟨writable, hissuer, hsecret⟩ : recovered.store.writable = true
      ∧ recovered.store.issuers.get? (.origin ⟨"default", "prod"⟩)
        = some (Sample.issuer.atVersion "5")
      ∧ recovered.store.secrets.get? ⟨"default", "service-key"⟩ = some Sample.secret := by
    decide +kernel
  have accepting : recovered.Accepting := ⟨writable, by rw [faultless]; rfl⟩
  let supply : Supply Script.authority Sample.settings recovered r :=
    { ns := "default"
      issuerKey := .origin ⟨"default", "prod"⟩
      keyNs := "default"
      issuer := Sample.issuer.atVersion "5"
      secret := Sample.secret
      serviceKey := [118, 49]
      signer := .scripted
      home := rfl
      named := .inl ⟨rfl, rfl, rfl⟩
      found := readIssuer_of_stored hissuer (by rw [faultless]; rfl)
      ready := by decide
      kept := readSecret_of_stored hsecret (by rw [faultless]; rfl)
      selected := rfl
      opened := rfl }
  have payload : RequestReconcile.Payload r.spec supply.issuer.spec.requestType request :=
    RequestReconcile.signRequest_eq_ok.mp rfl
  have answered : (Script.authority.sign supply.signer request
      (Script.authority.openSigner supply.serviceKey recovered.authority).2).1.1
        = .ok { SignResponse.ofCertificate "signed" with
          requestType := "origin-rsa", validity := 7 } := rfl
  obtain ⟨hok, o, hstored, hissued, hcertificate⟩ :=
    issued_after_retries reached stored eligible retried readable accepting supply payload answered
  exact ⟨hok, o, hstored, hissued, hcertificate⟩

end World
end CertIssuer

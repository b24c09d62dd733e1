import CertIssuer.Proofs.Recovery
import CertIssuer.Proofs.Sources

/-!
Redelivery: a reconcile that is run once more, at any later time, leaves the status of its request
as the first run left it.

What a reconcile comes to depends on the specification of the request, on the verdict on it and on
its sources, and not on the time. A request that has come to an end, or that was left alone, is left
alone. One that has to wait has to wait for the same reason, and to say the same again changes
nothing, because a condition keeps its time as long as its status stays.
-/

namespace CertIssuer

variable {σ ω : Type}

/-! ### Saying the same again -/

namespace Conditions

variable {c d old : Condition}

/-- A condition that says the same again keeps its time. -/
theorem replacing_of_agree (agree : Agree old d) : replacing old d = old := by
  obtain ⟨htype, hstatus, hreason, hmessage⟩ := agree
  rw [replacing, if_pos hstatus]
  cases old
  cases d
  subst htype hstatus hreason hmessage
  rfl

/-- Putting a condition that says the same keeps the one that is there. -/
theorem put_put (agree : Agree c d) (conditions : List Condition) :
    put d (put c conditions) = put c conditions := by
  have again : ∀ old, Agree old c → Agree old d := fun old said =>
    ⟨said.type.trans agree.type, said.status.trans agree.status, said.reason.trans agree.reason,
      said.message.trans agree.message⟩
  induction conditions with
  | nil => rw [put, put, if_pos agree.type, replacing_of_agree agree]
  | cons e rest ih =>
    rw [put]
    split
    · have said := again _ (agree_replacing e c)
      rw [put, if_pos said.type, replacing_of_agree said]
    · next he => rw [put, if_neg (agree.type ▸ he), ih]

/-- Setting a condition once more makes no difference. -/
theorem set_set (conditions : List Condition) (type : String) (status : Truth)
    (reason message : String) (now later : Instant) :
    set (set conditions type status reason message now) type status reason message later
      = set conditions type status reason message now := by
  unfold set
  refine put_put ?_ conditions
  exact ⟨rfl, rfl, rfl, rfl⟩

end Conditions

namespace RequestReconcile

variable {settings : Settings} {s : Sources σ} {r r' o : CertificateRequest} {l : List (Access σ)}
  {made made' : List (SignCall σ)} {record record' : Option CertificateRequest}
  {b b' : Except ReconcileError Unit}

/-! ### What a reconcile comes to -/

/-- What a reconcile comes to. -/
inductive Finding where
  /-- There is nothing to do. -/
  | idle
  /-- It fails without a call and leaves no trace. -/
  | blocked
  /-- The call fails, and the authority may have issued the certificate all the same. -/
  | unsure (e : SignError)
  /-- The request has to wait. -/
  | waiting (reason message : String)
  /-- The request comes to an end. -/
  | ended

/-- What comes of a request that is to be sent to a signer. -/
def findingOfCall (s : Sources σ) (signer : σ) (type : RequestType) (spec : RequestSpec) :
    Finding :=
  match Provision.signRequest type spec with
  | .error _ => .ended
  | .ok request =>
    match s.signed signer request with
    | .ok _ => .ended
    | .error e =>
      match (ProvisionError.sign e).classify with
      | .retryable => .unsure e
      | .terminal => .ended

/-- What comes of a request that is to be signed by an issuer of a kind. -/
def findingOfSigning (s : Sources σ) (settings : Settings) (spec : RequestSpec) (kind : IssuerKind)
    (ns : String) : Finding :=
  let key := .referred kind ns spec.issuerRef.name
  match Resolve.ofAnswer key ns settings.clusterNs (s.issuer key) with
  | .error e => .waiting Reason.pending (pendingMessage e)
  | .ok issuer =>
    let selector := issuer.spec.serviceKeyRef
    match Resolve.keyOfAnswer selector (s.secret ⟨issuer.credentialNs, selector.name⟩) with
    | .error e => .waiting e.credentialReason ("Failed to retrieve auth secret: " ++ e.message)
    | .ok serviceKey =>
      match s.opened serviceKey with
      | .error _ => .blocked
      | .ok signer => findingOfCall s signer issuer.spec.requestType spec

/-- What comes of a request with this verdict. -/
def finding (s : Sources σ) (settings : Settings) (spec : RequestSpec) : Verdict → Finding
  | .leave _ => .idle
  | .homeless => .blocked
  | .deny | .unknownKind _ => .ended
  | .sign kind ns => findingOfSigning s settings spec kind ns

/-- The calls, the record and the result of a reconcile that has come to a finding. -/
inductive Concludes (settings : Settings) (r : CertificateRequest) :
    Finding → List (SignCall σ) → Option CertificateRequest → Except ReconcileError Unit → Prop
  | idle : Concludes settings r .idle [] none (.ok ())
  | blocked (e : ReconcileError) : Concludes settings r .blocked [] none (.error e)
  | unsure (call : SignCall σ) (e : SignError)
      (hclass : (ProvisionError.sign e).classify = .retryable) :
      Concludes settings r (.unsure e) [call] none (.error (.remoteTransient (.sign e)))
  | waiting (reason message : String) (now : Instant) (e : ReconcileError)
      (h : Admitted settings r) :
      Concludes settings r (.waiting reason message) []
        (some (unreadyRecord r reason message now)) (.error e)
  | ended (made : List (SignCall σ)) (r' : CertificateRequest) (b : Except ReconcileError Unit)
      (hmeta : r'.metadata = r.metadata) (terminal : r'.isTerminal = true) :
      Concludes settings r .ended made (some r') b

theorem concludes_of_call (settings : Settings) {issuer : ResolvedIssuer} {signer : σ}
    (call : Call r issuer signer l b) (told : ∀ x ∈ l, x.From s) :
    ∃ record, Recording l record
      ∧ Concludes settings r (findingOfCall s signer issuer.spec.requestType r.spec) (calls l)
        record b := by
  cases call with
  | malformed e now written h =>
    simp only [findingOfCall, h]
    exact ⟨_, .write _ written, .ended _ _ _ rfl (isTerminal_failedRecord r _ now)⟩
  | issued request response now written h =>
    have answered : s.signed signer request = .ok response := told _ List.mem_cons_self
    simp only [findingOfCall, h, answered]
    exact ⟨_, (Recording.write _ written).cons rfl,
      .ended _ _ _ rfl (isTerminal_issuedRecord r _ now)⟩
  | transient request e h hclass =>
    have answered : s.signed signer request = .error e := told _ List.mem_cons_self
    simp only [findingOfCall, h, answered, hclass]
    exact ⟨none, .nothing (by simp [Access.isWrite]), .unsure _ e hclass⟩
  | rejected request e now written h hclass =>
    have answered : s.signed signer request = .error e := told _ List.mem_cons_self
    simp only [findingOfCall, h, answered, hclass]
    exact ⟨_, (Recording.write _ written).cons rfl,
      .ended _ _ _ rfl (isTerminal_failedRecord r _ now)⟩

theorem concludes_of_signing {kind : IssuerKind} {ns : String} (admitted : Admitted settings r)
    (signing : Signing settings r kind ns l b) (told : ∀ x ∈ l, x.From s) :
    ∃ record, Recording l record
      ∧ Concludes settings r (findingOfSigning s settings r.spec kind ns) (calls l) record b := by
  unfold findingOfSigning
  cases signing with
  | unresolved answer e now written h =>
    simp only [List.forall_mem_cons, Access.From] at told
    obtain ⟨rfl, _⟩ := told
    simp only [h]
    exact ⟨_, (Recording.write _ written).cons rfl, .waiting _ _ now e admitted⟩
  | keyless answer issuer secret e now written h hkey =>
    simp only [List.forall_mem_cons, Access.From] at told
    obtain ⟨rfl, rfl, _⟩ := told
    simp only [h, hkey]
    exact ⟨_, ((Recording.write _ written).cons rfl).cons rfl, .waiting _ _ now e admitted⟩
  | signerless answer issuer secret serviceKey chain h hkey =>
    simp only [List.forall_mem_cons, Access.From] at told
    obtain ⟨rfl, rfl, opened, _⟩ := told
    simp only [h, hkey, opened]
    exact ⟨none, .nothing (by simp [Access.isWrite]), .blocked _⟩
  | opened answer issuer secret serviceKey signer rest _ h hkey call =>
    simp only [List.forall_mem_cons, Access.From] at told
    obtain ⟨rfl, rfl, opened, told⟩ := told
    obtain ⟨record, recording, concludes⟩ := concludes_of_call settings call told
    simp only [h, hkey, opened]
    exact ⟨record, ((recording.cons rfl).cons rfl).cons rfl, concludes⟩

/-- What a reconcile does is what its verdict and its sources lead to. -/
theorem concludes_of_outcome (outcome : Outcome settings r l b) (told : ∀ x ∈ l, x.From s) :
    ∃ record, Recording l record
      ∧ Concludes settings r (finding s settings r.spec (verdict settings r)) (calls l) record
        b := by
  cases outcome with
  | left event h =>
    rw [h]
    exact ⟨none, .nothing (by simp), .idle⟩
  | denied failed now written h =>
    rw [h]
    exact ⟨_, .write _ written, .ended _ _ _ rfl (isTerminal_deniedRecord r failed now)⟩
  | homeless h =>
    rw [h]
    exact ⟨none, .nothing (by simp), .blocked _⟩
  | unknownKind kind now written h =>
    rw [h]
    exact ⟨_, .write _ written, .ended _ _ _ rfl (isTerminal_failedRecord r _ now)⟩
  | signing kind ns _ _ h signing =>
    rw [h]
    exact concludes_of_signing (admitted_of_sign h) signing told

/-! ### The second run -/

/-- What is recorded keeps the metadata. -/
theorem Concludes.metadata_eq {f : Finding} (h : Concludes settings r f made (some r') b) :
    r'.metadata = r.metadata := by
  cases h with
  | waiting reason message now e _ => rfl
  | ended _ _ _ hmeta _ => exact hmeta

/-- `o` is the request `r` after its record `r'` was stored. -/
structure Recorded (r r' o : CertificateRequest) : Prop where
  ns : o.metadata.ns = r.metadata.ns
  spec : o.spec = r.spec
  status : o.status = r'.status

theorem Recorded.conditions (h : Recorded r r' o) : o.conditions = r'.conditions := by
  rw [CertificateRequest.conditions, CertificateRequest.conditions,
    CertificateRequest.statusOrEmpty, CertificateRequest.statusOrEmpty, h.status]

theorem Recorded.isTerminal (h : Recorded r r' o) : o.isTerminal = r'.isTerminal := by
  rw [CertificateRequest.isTerminal, CertificateRequest.isTerminal, h.conditions]

/-- A request that was recorded as not ready is left alone, or the verdict on it is as before. -/
theorem Recorded.verdict_of_unready {reason message : String} {now : Instant}
    (h : Recorded r (unreadyRecord r reason message now) o) (admitted : Admitted settings r) :
    (∃ event, verdict settings o = .leave event) ∨ verdict settings o = verdict settings r := by
  rcases verdict_cases settings o with left | ⟨_, denied⟩ | ⟨onIssuer, _⟩
  · exact .inl left
  · -- the record says nothing about denial
    have hdenied : Conditions.has
        (Conditions.set r.conditions Condition.ready .no reason message now)
        Condition.denied .yes = true := by
      rw [← denied.denied, h.conditions]
      rfl
    rw [Conditions.has_set_of_ne (by decide), admitted.notDenied] at hdenied
    cases hdenied
  · refine .inr ?_
    rw [onIssuer, verdict_of_admitted admitted, verdictOnIssuer, verdictOnIssuer, h.ns, h.spec]

/-- To record again that a request is not ready makes no difference. -/
theorem Recorded.unready_again {reason message : String} {now : Instant}
    (h : Recorded r (unreadyRecord r reason message now) o) (later : Instant) :
    (unreadyRecord o reason message later).status = o.status := by
  have hstatus : o.statusOrEmpty = { r.statusOrEmpty with
      conditions := Conditions.set r.conditions Condition.ready .no reason message now } := by
    rw [CertificateRequest.statusOrEmpty, h.status]
    rfl
  rw [unreadyRecord, withReady, CertificateRequest.conditions, hstatus, h.status]
  exact congrArg some (congrArg (fun c => { r.statusOrEmpty with conditions := c })
    (Conditions.set_set r.conditions Condition.ready .no reason message now later))

/-- Only the failure to store a certificate is transient. -/
theorem code_of_retryable {e : SignError} (h : (ProvisionError.sign e).classify = .retryable) :
    ∃ error, e = .api error ∧ error.code = ApiError.databaseWrite := by
  cases e with
  | api error =>
    change (if error.code = ApiError.databaseWrite then ErrorClass.retryable else .terminal)
      = .retryable at h
    split at h
    · next hcode => exact ⟨error, rfl, hcode⟩
    · cases h
  | transport _ | invalidResponse _ => cases h

/-- A run after one that recorded nothing records nothing either, and only makes a call again if the
first one failed to store the certificate. -/
theorem Concludes.again {f : Finding} (first : Concludes settings r f made none b)
    (second : Concludes settings r f made' record' b') :
    record' = none ∧ (made' ≠ [] → ∃ error, b = .error (.remoteTransient (.sign (.api error)))
      ∧ error.code = ApiError.databaseWrite) := by
  cases first with
  | idle | blocked _ =>
    cases second
    exact ⟨rfl, fun h => absurd rfl h⟩
  | unsure call e hclass =>
    obtain ⟨error, rfl, hcode⟩ := code_of_retryable hclass
    cases second
    exact ⟨rfl, fun _ => ⟨error, rfl, hcode⟩⟩

/-- A run over the record of another one makes no call, and records at most the same status
again. -/
theorem Concludes.again_over_record {f : Finding} (recorded : Recorded r r' o)
    (hf : finding s settings r.spec (verdict settings r) = f)
    (first : Concludes settings r f made (some r') b)
    (second : Concludes settings o (finding s settings o.spec (verdict settings o)) made' record'
      b') :
    made' = [] ∧ ∀ o', record' = some o' → o'.status = o.status := by
  have idle : ∀ event, verdict settings o = .leave event →
      made' = [] ∧ ∀ o', record' = some o' → o'.status = o.status := by
    intro event h
    rw [h] at second
    cases second
    exact ⟨rfl, fun _ ho' => nomatch ho'⟩
  cases first with
  | waiting reason message now e admitted =>
    rcases recorded.verdict_of_unready admitted with ⟨event, left⟩ | hsame
    · exact idle event left
    · rw [recorded.spec, hsame, hf] at second
      cases second with
      | waiting _ _ later e' _ =>
        refine ⟨rfl, fun o' ho' => ?_⟩
        cases ho'
        exact recorded.unready_again later
  | ended _ _ _ _ terminal =>
    rw [← recorded.isTerminal] at terminal
    obtain ⟨event, left⟩ := leave_of_isTerminal settings terminal
    exact idle event left

end RequestReconcile

/-! ### In the store -/

namespace World

variable {a : Authority σ ω} {w : World ω} {key : ObjectKey} {r : CertificateRequest}

/-- The world at another time. -/
def atTime (w : World ω) (now : Instant) : World ω := { w with now }

/-- A reconcile of a request that was read does what its verdict and the sources lead to. It leaves
the store as it was, or with its record, and where status writes are accepted whatever is to be
recorded is. -/
theorem concludes_of_run (steady : a.Steady) (settings : RequestReconcile.Settings)
    (keyed : w.store.Keyed) (h : w.readRequest key = .ok r) :
    let reconcile : Plan σ (Except ReconcileError Unit) :=
      RequestReconcile.reconcile settings key.ns key.name
    ∃ record, RequestReconcile.Concludes settings r
        (RequestReconcile.finding (w.sources a) settings r.spec
          (RequestReconcile.verdict settings r))
        (w.callsOf a reconcile) record (w.run a reconcile).1
      ∧ (((w.run a reconcile).2.store = w.store ∧ (w.Accepting → record = none))
        ∨ ∃ r', record = some r'
          ∧ (w.run a reconcile).2.store = w.store.withStatus r r'.status) := by
  intro reconcile
  obtain ⟨l, hl, outcome, answers⟩ := w.outcome_of_run a settings h
  obtain ⟨record, recording, _⟩ := RequestReconcile.ending_of_outcome outcome
  have told : ∀ x ∈ l, x.From (w.sources a) := by
    intro x hx
    refine from_run steady reconcile ?_ x (hl ▸ List.mem_cons_of_mem _ hx)
    intro kind i written mem
    rw [hl] at mem
    cases mem with
    | tail _ mem => exact RequestReconcile.not_mem_writeIssuer recording kind i written mem
  obtain ⟨record, recording, concludes⟩ :=
    RequestReconcile.concludes_of_outcome outcome told
  have hcalls : w.callsOf a reconcile = calls l := by
    rw [callsOf, hl, calls_readRequest]
  rw [hcalls]
  refine ⟨record, concludes, recorded_of_answers keyed h recording answers ?_⟩
  rintro r' rfl
  exact concludes.metadata_eq

/-- What a run in `again` does after an earlier one with this result: the status of the request
stays as it is, and a call is made only if the authority could not store the certificate before. -/
structure Repeated (a : Authority σ ω) (settings : RequestReconcile.Settings) (key : ObjectKey)
    (result : Except ReconcileError Unit) (again : World ω) : Prop where
  status : ∃ o o', again.store.requests.get? key = some o
    ∧ (again.run a (RequestReconcile.reconcile settings key.ns key.name)).2.store.requests.get? key
      = some o' ∧ o'.status = o.status
  calls : again.callsOf a (RequestReconcile.reconcile settings key.ns key.name) ≠ [] →
    ∃ error, result = .error (.remoteTransient (.sign (.api error)))
      ∧ error.code = ApiError.databaseWrite

variable {settings : RequestReconcile.Settings} {made : List (SignCall σ)}
  {b : Except ReconcileError Unit} {r' o : CertificateRequest}

/-- Nothing is done with a request that cannot be read. -/
theorem repeated_of_unread {e : StoreError} (stored : w.store.requests.get? key = some r)
    (h : w.readRequest key = .error e) : Repeated a settings key b w := by
  obtain ⟨hcalls, _, hstore⟩ := w.unread_of_run a settings h
  refine ⟨⟨r, r, stored, ?_, rfl⟩, fun hne => absurd hcalls hne⟩
  rw [hstore]
  exact stored

/-- After a run that recorded nothing, the next one meets the same request. -/
theorem repeated_of_unrecorded (steady : a.Steady) (keyed : w.store.Keyed)
    (h : w.readRequest key = .ok r)
    (first : RequestReconcile.Concludes settings r
      (RequestReconcile.finding (w.sources a) settings r.spec (RequestReconcile.verdict settings r))
      made none b) : Repeated a settings key b w := by
  have stored := stored_of_readRequest h
  obtain ⟨record, second, hstore⟩ := concludes_of_run steady settings keyed h
  obtain ⟨rfl, hcalls⟩ := first.again second
  refine ⟨⟨r, r, stored, ?_, rfl⟩, hcalls⟩
  rcases hstore with ⟨hsame, _⟩ | ⟨_, hrecord, _⟩
  · rw [hsame]
    exact stored
  · cases hrecord

/-- After a run that recorded something, the next one meets the record. -/
theorem repeated_of_recorded (steady : a.Steady) (keyed : w.store.Keyed)
    (h : w.readRequest key = .ok o) (recorded : RequestReconcile.Recorded r r' o)
    (first : RequestReconcile.Concludes settings r
      (RequestReconcile.finding (w.sources a) settings r.spec (RequestReconcile.verdict settings r))
      made (some r') b) : Repeated a settings key b w := by
  have stored := stored_of_readRequest h
  obtain ⟨record, second, hstore⟩ := concludes_of_run steady settings keyed h
  obtain ⟨hcalls, hrecord⟩ := first.again_over_record recorded rfl second
  refine ⟨?_, fun hne => absurd hcalls hne⟩
  rcases hstore with ⟨hsame, _⟩ | ⟨o', ho', hwritten⟩
  · rw [hsame]
    exact ⟨o, o, stored, stored, rfl⟩
  · rw [hwritten]
    exact ⟨o, _, stored, w.store.get?_withStatus o'.status (keyed key o stored), hrecord o' ho'⟩

/-- Where status writes are accepted and the answers of the authority are functions of what it is
asked, a reconcile that is run once more, at whatever time, leaves the status of its request as it
is. It makes a call again only if the first run failed because the authority could not store the
certificate. -/
theorem redelivery_leaves_status (steady : a.Steady) (settings : RequestReconcile.Settings)
    {changes : List Change} (reached : w.store = .afterChanges changes) (accepting : w.Accepting)
    (stored : w.store.requests.get? key = some r) (later : Instant) :
    let reconcile : Plan σ (Except ReconcileError Unit) :=
      RequestReconcile.reconcile settings key.ns key.name
    let first := w.run a reconcile
    let again := first.2.atTime later
    (∃ o o', first.2.store.requests.get? key = some o
        ∧ (again.run a reconcile).2.store.requests.get? key = some o' ∧ o'.status = o.status)
      ∧ (again.callsOf a reconcile ≠ [] → ∃ error,
        first.1 = .error (.remoteTransient (.sign (.api error)))
          ∧ error.code = ApiError.databaseWrite) := by
  intro reconcile first again
  have keyed := MemoryStore.keyed_of_reached reached
  have hkey : r.key = key := keyed key r stored
  have beside := w.beside_of_reconcile a settings keyed key
  have told : again.sources a = w.sources a :=
    sources_congr steady beside.store.issuers beside.store.secrets beside.faults
  have repeated : Repeated a settings key first.1 again := by
    cases read : w.readRequest key with
    | error e =>
      have hstore : again.store = w.store := (w.unread_of_run a settings read).2.2
      have unread : again.readRequest key = .error e :=
        (readRequest_congr (congrArg (·.requests.get? key) hstore) beside.faults).trans read
      exact repeated_of_unread (hstore ▸ stored) unread
    | ok _ =>
      obtain rfl := Option.some.inj (stored.symm.trans (stored_of_readRequest read))
      have readable : again.faults.lookup .readRequest = none :=
        (congrArg _ beside.faults).trans (readable_of_readRequest read)
      obtain ⟨record, concludes, ⟨hsame, refused⟩ | ⟨r', rfl, hwritten⟩⟩ :=
        concludes_of_run steady settings keyed read
      · have hstore : again.store = w.store := hsame
        obtain rfl : record = none := refused accepting
        rw [← told] at concludes
        exact repeated_of_unrecorded steady (hstore ▸ keyed)
          (readRequest_of_stored (hstore ▸ stored) readable) concludes
      · have hstore : again.store = w.store.withStatus r r'.status := hwritten
        have storedAgain := w.store.get?_withStatus r'.status hkey
        rw [← hstore] at storedAgain
        rw [← told] at concludes
        refine repeated_of_recorded steady (hstore ▸ keyed.withStatus)
          (readRequest_of_stored storedAgain readable) ?_ concludes
        exact ⟨rfl, rfl, rfl⟩
  exact ⟨repeated.status, repeated.calls⟩

/-- A request without an issuer is found waiting again an hour later, and its status is written
again as it was. -/
theorem redelivery_leaves_status_waiting :
    let w := Sample.world issuerless
    let a := Sample.authority (.ok (.ofCertificate "signed"))
    let reconcile := RequestReconcile.reconcile Sample.settings Sample.key.ns Sample.key.name
    let first := w.run a reconcile
    let again := first.2.atTime 3600000
    (again.run a reconcile).2.store.writes = 2
      ∧ ∃ o o', first.2.store.requests.get? Sample.key = some o
        ∧ (again.run a reconcile).2.store.requests.get? Sample.key = some o'
        ∧ o'.status = o.status := by
  have reached : (Sample.world issuerless).store = .afterChanges issuerless := rfl
  have stored : (Sample.world issuerless).store.requests.get? Sample.key
      = some ((Sample.request [Sample.condition Condition.approved] [] none).atVersion "1") := by
    decide +kernel
  have accepting : (Sample.world issuerless).Accepting := ⟨rfl, rfl⟩
  have left := redelivery_leaves_status (Sample.steady_authority (.ok (.ofCertificate "signed")))
    Sample.settings reached accepting stored 3600000
  dsimp only at left ⊢
  exact ⟨by decide +kernel, left.1⟩

end World
end CertIssuer

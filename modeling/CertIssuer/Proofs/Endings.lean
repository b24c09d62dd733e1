import CertIssuer.Proofs.Answers
import CertIssuer.Proofs.Records

/-!
How a reconcile of a request ends: the signing calls it made, what it tries to record, and its
result. A reconcile makes at most one status write, and makes it last, so it leaves the store as it
was or with its record over the request it has read.
-/

namespace CertIssuer

variable {σ ω : Type}

namespace RequestReconcile

variable {settings : Settings} {r r' : CertificateRequest} {l : List (Access σ)}
  {b : Except ReconcileError Unit} {record : Option CertificateRequest}

/-- A reason that is recorded for a failure which may go away. -/
def IsPassing (reason : String) : Prop :=
  reason = Reason.pending ∨ reason = Reason.notFound ∨ reason = Reason.error

/-- The ways a reconcile of a request ends: the signing calls it made, what it tries to record, and
its result. -/
inductive Ending (settings : Settings) (r : CertificateRequest) :
    List (SignCall σ) → Option CertificateRequest → Except ReconcileError Unit → Prop
  | left (event : Log.Event) (h : verdict settings r = .leave event) :
      Ending settings r [] none (.ok ())
  | denied (failed now : Instant) (h : Denied r) :
      Ending settings r [] (some (deniedRecord r failed now)) (.ok ())
  /-- A failure that may go away and leaves no trace. -/
  | unrecorded (calls : List (SignCall σ)) (e : ReconcileError) (retryable : e.isRetryable = true)
      (transient : ∀ call ∈ calls, call.isTransient = true) (h : Admitted settings r) :
      Ending settings r calls none (.error e)
  /-- A failure that may go away and is recorded. -/
  | pending (reason message : String) (now : Instant) (e : ReconcileError)
      (retryable : e.isRetryable = true) (passing : IsPassing reason) (h : Admitted settings r) :
      Ending settings r [] (some (unreadyRecord r reason message now)) (.error e)
  /-- A failure for good. -/
  | failed (calls : List (SignCall σ)) (message : String) (now : Instant) (e : ReconcileError)
      (terminal : e.isRetryable = false)
      (unsigned : ∀ call ∈ calls, ∃ fault, call.answer = .error fault)
      (h : Admitted settings r) :
      Ending settings r calls (some (unreadyRecord r Reason.failed message now)) (.error e)
  | issued (call : SignCall σ) (response : SignResponse) (now : Instant)
      (answered : call.answer = .ok response) (h : Admitted settings r) :
      Ending settings r [call] (some (issuedRecord r (Text.encodeUtf8 response.certificate) now))
        (.ok ())

/-- Accesses that write nothing except this record, if there is one, and that at the end. -/
inductive Recording : List (Access σ) → Option CertificateRequest → Prop
  | nothing {l : List (Access σ)} (quiet : ∀ x ∈ l, x.isWrite = false) : Recording l none
  | record {before : List (Access σ)} {r' : CertificateRequest} {written : Except StoreError Unit}
      (quiet : ∀ x ∈ before, x.isWrite = false) :
      Recording (before ++ [.writeRequest r' written]) (some r')

theorem Recording.write (r' : CertificateRequest) (written : Except StoreError Unit) :
    Recording [(.writeRequest r' written : Access σ)] (some r') := by
  have quiet : ∀ x ∈ ([] : List (Access σ)), x.isWrite = false := by simp
  exact .record quiet

theorem Recording.cons {x : Access σ} (h : Recording l record) (quiet : x.isWrite = false) :
    Recording (x :: l) record := by
  have hcons : ∀ {l : List (Access σ)}, (∀ y ∈ l, y.isWrite = false) →
      ∀ y ∈ x :: l, y.isWrite = false := by
    intro l hl y hy
    rcases List.mem_cons.mp hy with rfl | hy
    · exact quiet
    · exact hl y hy
  cases h with
  | nothing hl => exact .nothing (hcons hl)
  | record hbefore =>
    rw [← List.cons_append]
    exact .record (hcons hbefore)

/-! ### Every reconcile ends in one of these ways -/

theorem isPassing_credentialReason (e : ReconcileError) : IsPassing e.credentialReason := by
  unfold ReconcileError.credentialReason
  split
  · exact .inr (.inl rfl)
  · exact .inr (.inl rfl)
  · exact .inr (.inr rfl)

theorem ending_of_call {issuer : ResolvedIssuer} {signer : σ} (admitted : Admitted settings r)
    (call : Call r issuer signer l b) :
    ∃ record, Recording l record ∧ Ending settings r (calls l) record b := by
  cases call with
  | malformed e now written h =>
    exact ⟨_, .write _ written, .failed [] _ now _ rfl (by simp) admitted⟩
  | issued request response now written h =>
    exact ⟨_, (Recording.write _ written).cons rfl,
      .issued ⟨signer, request, .ok response⟩ response now rfl admitted⟩
  | transient request e h hclass =>
    have transient : (⟨signer, request, .error e⟩ : SignCall σ).isTransient = true :=
      (SignCall.isTransient_of_error rfl).mpr hclass
    refine ⟨_, .nothing ?_, .unrecorded [⟨signer, request, .error e⟩] _ rfl ?_ admitted⟩
    · simp [Access.isWrite]
    · simpa using transient
  | rejected request e now written h hclass =>
    refine ⟨_, (Recording.write _ written).cons rfl,
      .failed [⟨signer, request, .error e⟩] _ now _ rfl ?_ admitted⟩
    simp

theorem ending_of_signing {kind : IssuerKind} {ns : String} (admitted : Admitted settings r)
    (signing : Signing settings r kind ns l b) :
    ∃ record, Recording l record ∧ Ending settings r (calls l) record b := by
  cases signing with
  | unresolved answer e now written h =>
    exact ⟨_, (Recording.write _ written).cons rfl,
      .pending _ _ now e (Resolve.isRetryable_of_ofAnswer h) (.inl rfl) admitted⟩
  | keyless answer issuer secret e now written h hkey =>
    exact ⟨_, ((Recording.write _ written).cons rfl).cons rfl,
      .pending _ _ now e (Resolve.isRetryable_of_keyOfAnswer hkey) (isPassing_credentialReason e)
        admitted⟩
  | signerless answer issuer secret serviceKey chain h hkey =>
    refine ⟨_, .nothing ?_, .unrecorded [] _ rfl (by simp) admitted⟩
    simp [Access.isWrite]
  | opened answer issuer secret serviceKey signer rest _ h hkey call =>
    obtain ⟨record, recording, ending⟩ := ending_of_call admitted call
    exact ⟨record, ((recording.cons rfl).cons rfl).cons rfl, ending⟩

theorem ending_of_outcome (outcome : Outcome settings r l b) :
    ∃ record, Recording l record ∧ Ending settings r (calls l) record b := by
  cases outcome with
  | left event h => exact ⟨none, .nothing (by simp), .left event h⟩
  | denied failed now written h =>
    exact ⟨_, .write _ written, .denied failed now (denied_of_verdict h)⟩
  | homeless h =>
    have admitted := admitted_of_verdict h nofun nofun
    exact ⟨none, .nothing (by simp), .unrecorded [] _ rfl (by simp) admitted⟩
  | unknownKind kind now written h =>
    exact ⟨_, .write _ written, .failed [] _ now _ rfl (by simp) (admitted_of_unknownKind h)⟩
  | signing kind ns _ _ h signing => exact ending_of_signing (admitted_of_sign h) signing

/-- A reconcile makes no more than one signing call. -/
theorem length_calls_le_one (outcome : Outcome settings r l b) : (calls l).length ≤ 1 := by
  cases outcome with
  | left _ _ | denied _ _ _ _ | homeless _ | unknownKind _ _ _ _ => exact Nat.zero_le 1
  | signing kind ns _ _ h signing =>
    cases signing with
    | unresolved _ _ _ _ _ | keyless _ _ _ _ _ _ _ _ | signerless _ _ _ _ _ _ _ =>
      exact Nat.zero_le 1
    | opened answer issuer secret serviceKey signer rest _ h hkey call =>
      cases call with
      | malformed _ _ _ _ => exact Nat.zero_le 1
      | issued _ _ _ _ _ | transient _ _ _ _ | rejected _ _ _ _ _ _ => exact Nat.le_refl 1

/-- What is recorded keeps the metadata. -/
theorem Ending.metadata_eq {calls : List (SignCall σ)}
    (h : Ending settings r calls (some r') b) : r'.metadata = r.metadata := by
  cases h <;> rfl

end RequestReconcile

/-! ### What a reconcile leaves in the store -/

namespace World

variable {settings : RequestReconcile.Settings} {r r' : CertificateRequest} {l : List (Access σ)}
  {record : Option CertificateRequest} {a : Authority σ ω} {w w' : World ω} {key : ObjectKey}

/-- A record over the stored request is what changes the store, if anything does. Where writes are
accepted it is stored. -/
theorem store_of_recording (recording : RequestReconcile.Recording l record)
    (answers : w.AnswersAll a l w') (stored : w.store.requests.get? r.key = some r)
    (hmeta : ∀ r', record = some r' → r'.metadata = r.metadata) :
    (w'.store = w.store ∧ (w.Accepting → record = none))
      ∨ ∃ r', record = some r' ∧ w'.store = w.store.withStatus r r'.status := by
  cases recording with
  | nothing quiet => exact .inl ⟨(answers.store_eq quiet).1, fun _ => rfl⟩
  | @record before r' written quiet =>
    obtain ⟨w₁, hbefore, w₂, hwrite, rfl⟩ := answers.split
    obtain ⟨hstore, hfaults⟩ := hbefore.store_eq quiet
    rw [← hstore] at stored
    rcases hwrite.store_of_write stored (hmeta r' rfl) with haccepted | ⟨hrefused, refused⟩
    · rw [hstore] at haccepted
      exact .inr ⟨r', rfl, haccepted⟩
    · refine .inl ⟨hrefused.trans hstore, fun accepting => absurd ?_ refused⟩
      exact ⟨by rw [hstore]; exact accepting.writable, by rw [hfaults]; exact accepting.faultless⟩

/-- The signing calls of a plan that is run in a world. -/
def callsOf {α : Type} (a : Authority σ ω) (p : Plan σ α) (w : World ω) : List (SignCall σ) :=
  calls (p.accesses (handler a) w)

theorem length_callsOf_le_one (a : Authority σ ω) (settings : RequestReconcile.Settings)
    (w : World ω) (ns name : String) :
    (w.callsOf a (RequestReconcile.reconcile settings ns name)).length ≤ 1 := by
  have path := Plan.path_run (handler a) (RequestReconcile.reconcile settings ns name) w
  unfold callsOf
  rcases RequestReconcile.path_reconcile path with ⟨r, rest, hl, outcome⟩ | ⟨e, hl, _⟩
  · rw [hl, calls_readRequest]
    exact RequestReconcile.length_calls_le_one outcome
  · rw [hl]
    exact Nat.zero_le 1

/-- A reconcile does nothing where its request cannot be read, and it is an error unless the request
does not exist. -/
theorem unread_of_run (a : Authority σ ω) (settings : RequestReconcile.Settings) {e : StoreError}
    (h : w.readRequest key = .error e) :
    w.callsOf a (RequestReconcile.reconcile settings key.ns key.name) = []
      ∧ (w.run a (RequestReconcile.reconcile settings key.ns key.name)).1
        = (if e.isNotFound then .ok () else .error (.store e))
      ∧ (w.run a (RequestReconcile.reconcile settings key.ns key.name)).2.store = w.store := by
  have path := Plan.path_run (handler a) (RequestReconcile.reconcile settings key.ns key.name) w
  have answers := w.answersAll_run a (RequestReconcile.reconcile settings key.ns key.name)
  unfold callsOf
  rcases RequestReconcile.path_reconcile path with ⟨r, rest, hl, _⟩ | ⟨fault, hl, hb⟩
  · rw [hl] at answers
    obtain ⟨_, ⟨hread, _⟩, _⟩ := answers
    have hread : w.readRequest key = .ok r := hread
    rw [h] at hread
    cases hread
  · rw [hl] at answers ⊢
    obtain ⟨_, ⟨hread, rfl⟩, hend⟩ := answers
    have hread : w.readRequest key = .error fault := hread
    obtain rfl : e = fault := Except.error.inj (h.symm.trans hread)
    have hworld : (w.run a (RequestReconcile.reconcile settings key.ns key.name)).2.unlogged
        = w.unlogged := hend
    have hstore := congrArg World.store hworld
    exact ⟨rfl, hb, hstore⟩

/-- A reconcile of a request that was read goes one of the ways there are, with answers from its
world. -/
theorem outcome_of_run (a : Authority σ ω) (settings : RequestReconcile.Settings)
    (h : w.readRequest key = .ok r) :
    ∃ l, (RequestReconcile.reconcile settings key.ns key.name).accesses (handler a) w
        = .readRequest key (.ok r) :: l
      ∧ RequestReconcile.Outcome settings r l
        (w.run a (RequestReconcile.reconcile settings key.ns key.name)).1
      ∧ w.unlogged.AnswersAll a l
        (w.run a (RequestReconcile.reconcile settings key.ns key.name)).2.unlogged := by
  have path := Plan.path_run (handler a) (RequestReconcile.reconcile settings key.ns key.name) w
  have answers := w.answersAll_run a (RequestReconcile.reconcile settings key.ns key.name)
  rcases RequestReconcile.path_reconcile path with ⟨o, l, hl, outcome⟩ | ⟨e, hl, _⟩
  · rw [hl] at answers ⊢
    obtain ⟨_, ⟨hread, rfl⟩, hrest⟩ := answers
    have hread : w.readRequest key = .ok o := hread
    obtain rfl : r = o := Except.ok.inj (h.symm.trans hread)
    exact ⟨l, rfl, outcome, hrest⟩
  · rw [hl] at answers
    obtain ⟨_, ⟨hread, _⟩, _⟩ := answers
    have hread : w.readRequest key = .error e := hread
    rw [h] at hread
    cases hread

/-- What is to be recorded over a request that was read is what changes the store, if anything does.
Where status writes are accepted it is stored. -/
theorem recorded_of_answers (keyed : w.store.Keyed) (h : w.readRequest key = .ok r)
    (recording : RequestReconcile.Recording l record)
    (answers : w.unlogged.AnswersAll a l w'.unlogged)
    (hmeta : ∀ r', record = some r' → r'.metadata = r.metadata) :
    (w'.store = w.store ∧ (w.Accepting → record = none))
      ∨ ∃ r', record = some r' ∧ w'.store = w.store.withStatus r r'.status := by
  have stored := stored_of_readRequest h
  rw [← keyed key r stored] at stored
  rcases store_of_recording recording answers stored hmeta with ⟨hsame, refused⟩ | hrecorded
  · exact .inl ⟨hsame, fun accepting => refused ⟨accepting.1, accepting.2⟩⟩
  · exact .inr hrecorded

/-- A reconcile of a request that was read ends in one of the ways there are. It leaves the store as
it was, or with what it recorded, and where status writes are accepted whatever is to be recorded
is. -/
theorem ending_of_run (a : Authority σ ω) (settings : RequestReconcile.Settings)
    (keyed : w.store.Keyed) (h : w.readRequest key = .ok r) :
    ∃ record, RequestReconcile.Ending settings r
        (w.callsOf a (RequestReconcile.reconcile settings key.ns key.name)) record
        (w.run a (RequestReconcile.reconcile settings key.ns key.name)).1
      ∧ (((w.run a (RequestReconcile.reconcile settings key.ns key.name)).2.store = w.store
          ∧ (w.Accepting → record = none))
        ∨ ∃ r', record = some r'
          ∧ (w.run a (RequestReconcile.reconcile settings key.ns key.name)).2.store
            = w.store.withStatus r r'.status) := by
  obtain ⟨l, hl, outcome, answers⟩ := w.outcome_of_run a settings h
  obtain ⟨record, recording, ending⟩ := RequestReconcile.ending_of_outcome outcome
  unfold callsOf
  rw [hl, calls_readRequest]
  refine ⟨record, ending, recorded_of_answers keyed h recording answers ?_⟩
  rintro r' rfl
  exact ending.metadata_eq

/-- Where status writes are accepted, what is recorded after a signing call is stored. -/
theorem stored_after_call {call : SignCall σ} (keyed : w.store.Keyed) (accepting : w.Accepting)
    (mem : call ∈ w.callsOf a (RequestReconcile.reconcile settings key.ns key.name)) :
    ∃ r record, RequestReconcile.Ending settings r
        (w.callsOf a (RequestReconcile.reconcile settings key.ns key.name)) record
        (w.run a (RequestReconcile.reconcile settings key.ns key.name)).1
      ∧ ∀ r', record = some r' →
        (w.run a (RequestReconcile.reconcile settings key.ns key.name)).2.store.requests.get? key
          = some ({ r with status := r'.status }.atVersion w.store.stamp) := by
  cases read : w.readRequest key with
  | error e =>
    rw [(w.unread_of_run a settings read).1] at mem
    cases mem
  | ok r =>
    obtain ⟨record, ending, ⟨_, refused⟩ | ⟨r', rfl, hstore⟩⟩ :=
      w.ending_of_run a settings keyed read
    · refine ⟨r, record, ending, fun r' hrecord => ?_⟩
      rw [refused accepting] at hrecord
      cases hrecord
    · refine ⟨r, some r', ending, fun _ hrecord => ?_⟩
      cases hrecord
      rw [hstore]
      exact w.store.get?_withStatus r'.status (keyed key r (stored_of_readRequest read))

end World
end CertIssuer

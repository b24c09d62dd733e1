import CertIssuer.Proofs.Endings
import CertIssuer.Proofs.Settlement

/-!
How the result of a reconcile and the stored status correspond, where status writes are accepted. A
terminal error stands for a failure that was recorded just now, a retryable error for a request that
is as open as it was, and success for a request with nothing to do, a recorded denial or the very
certificate that the authority returned.
-/

namespace CertIssuer

variable {σ ω : Type}

/-- Whether the Ready condition says that the request failed for good. -/
def CertificateRequest.isFailed (r : CertificateRequest) : Bool :=
  Conditions.hasWithReason r.conditions Condition.ready .no Reason.failed

namespace RequestReconcile

variable {settings : Settings} {r r' : CertificateRequest} {calls : List (SignCall σ)}
  {b : Except ReconcileError Unit} {e : ReconcileError} {status : Truth} {reason message : String}
  {now : Instant}

/-- A status that differs from an earlier one in its first Ready condition only, which now says that
the request is not ready for a reason that may go away. -/
structure Defers (old new : RequestStatus) : Prop where
  first : ∃ c, c.type = Condition.ready ∧ c.status = .no
    ∧ (∃ reason, c.reason = some reason ∧ IsPassing reason)
    ∧ Conditions.PutsFirst c old.conditions new.conditions
  rest : new = { old with conditions := new.conditions }

/-- The result of a reconcile, the signing calls it made and what it did to its request, which was
`r` and is now `o`, say the same. -/
structure Corresponds (calls : List (SignCall σ)) (result : Except ReconcileError Unit)
    (r o : CertificateRequest) (before after : MemoryStore) : Prop where
  terminal : (∃ e, result = .error e ∧ e.isRetryable = false)
    ↔ before.writes < after.writes ∧ o.isFailed = true
  retryable : ∀ e, result = .error e → e.isRetryable = true →
    o.statusOrEmpty = r.statusOrEmpty ∨ Defers r.statusOrEmpty o.statusOrEmpty
  ok : result = .ok () → after = before
    ∨ (Conditions.has r.conditions Condition.denied .yes = true
      ∧ Conditions.hasWithReason o.conditions Condition.ready .no Reason.denied = true
      ∧ o.statusOrEmpty.failureTime.isSome = true)
    ∨ ∃ call ∈ calls, ∃ response, call.answer = .ok response
      ∧ o.statusOrEmpty.certificate = Text.encodeUtf8 response.certificate
      ∧ Conditions.hasWithReason o.conditions Condition.ready .yes Reason.issued = true

/-! ### What is recorded at each end -/

/-- Setting the Ready condition makes a request fail only if it is set to that. -/
theorem failed_of_isFailed (unsettled : r.isTerminal = false)
    (h : (withReady r status reason message now).isFailed = true) :
    status = .no ∧ reason = Reason.failed := by
  rcases Conditions.hasWithReason_of_hasWithReason_set h with before | ⟨hstatus, hreason⟩
  · simp [CertificateRequest.isTerminal, before] at unsettled
  · exact ⟨hstatus.symm, hreason.symm⟩

/-- A failure that leaves no trace may go away. -/
theorem Ending.isRetryable (h : Ending settings r calls none (.error e)) :
    e.isRetryable = true := by
  cases h with
  | unrecorded _ _ retryable _ _ => exact retryable

/-- Failures for good are recorded as such, and nothing else is. -/
theorem Ending.isFailed_iff (h : Ending settings r calls (some r') b) :
    (∃ e, b = .error e ∧ e.isRetryable = false) ↔ r'.isFailed = true := by
  cases h with
  | denied failed now h =>
    refine ⟨nofun, fun hfailed => ?_⟩
    have hunsettled : (withFailureTime r failed).isTerminal = false := h.notTerminal
    exact absurd (failed_of_isFailed hunsettled hfailed).2 (by decide)
  | pending reason message now e retryable passing h =>
    constructor
    · rintro ⟨_, he, terminal⟩
      cases he
      rw [retryable] at terminal
      cases terminal
    · intro hfailed
      obtain ⟨_, rfl⟩ := failed_of_isFailed h.notTerminal hfailed
      exact absurd passing (by simp [IsPassing, Reason.failed, Reason.pending, Reason.notFound,
        Reason.error])
  | failed _ message now e terminal unsigned h =>
    exact ⟨fun _ => Conditions.hasWithReason_set, fun _ => ⟨e, rfl, terminal⟩⟩
  | issued call response now answered h =>
    refine ⟨nofun, fun hfailed => ?_⟩
    let certificate := Text.encodeUtf8 response.certificate
    have hunsettled : (withCertificate r certificate).isTerminal = false := h.notTerminal
    exact absurd (failed_of_isFailed hunsettled hfailed).1 (by decide)

/-- What is recorded with a failure that may go away defers the request. -/
theorem Ending.defers (h : Ending settings r calls (some r') (.error e))
    (retryable : e.isRetryable = true) : Defers r.statusOrEmpty r'.statusOrEmpty := by
  cases h with
  | pending reason message now _ _ passing _ =>
    obtain ⟨c, agree, puts⟩ := Conditions.putsFirst_put
      ⟨Condition.ready, .no, some now.format, some reason, some message⟩ r.conditions
    exact ⟨⟨c, agree.type, agree.status, ⟨reason, agree.reason, passing⟩, puts⟩, rfl⟩
  | failed _ message now _ terminal _ _ =>
    rw [retryable] at terminal
    cases terminal

/-- What is recorded with success is a denial, or the certificate that was returned. -/
theorem Ending.recorded_of_ok (h : Ending settings r calls (some r') (.ok ())) :
    (Conditions.has r.conditions Condition.denied .yes = true
        ∧ Conditions.hasWithReason r'.conditions Condition.ready .no Reason.denied = true
        ∧ r'.statusOrEmpty.failureTime.isSome = true)
      ∨ ∃ call ∈ calls, ∃ response, call.answer = .ok response
        ∧ r'.statusOrEmpty.certificate = Text.encodeUtf8 response.certificate
        ∧ Conditions.hasWithReason r'.conditions Condition.ready .yes Reason.issued = true := by
  cases h with
  | denied failed now h => exact .inl ⟨h.denied, Conditions.hasWithReason_set, rfl⟩
  | issued call response now answered _ =>
    exact .inr ⟨call, List.mem_singleton_self _, response, answered, rfl,
      Conditions.hasWithReason_set⟩

/-- A reconcile that changes nothing corresponds to what it leaves, unless it failed for good. -/
theorem corresponds_of_same {before : MemoryStore}
    (retryable : ∀ e, b = .error e → e.isRetryable = true) :
    Corresponds calls b r r before before := by
  refine ⟨⟨?_, ?_⟩, fun _ _ _ => .inl rfl, fun _ => .inl rfl⟩
  · rintro ⟨e, he, terminal⟩
    rw [retryable e he] at terminal
    cases terminal
  · rintro ⟨hwrites, _⟩
    exact absurd hwrites (Nat.lt_irrefl _)

/-- A reconcile whose record is stored corresponds to it. -/
theorem Ending.corresponds {before : MemoryStore} (h : Ending settings r calls (some r') b) :
    Corresponds calls b r ({ r with status := r'.status }.atVersion before.stamp) before
      (before.withStatus r r'.status) := by
  have hwrites : before.writes < (before.withStatus r r'.status).writes := Nat.lt_succ_self _
  refine ⟨?_, ?_, ?_⟩
  · rw [h.isFailed_iff]
    exact ⟨fun hfailed => ⟨hwrites, hfailed⟩, And.right⟩
  · rintro e rfl retryable
    exact .inr (h.defers retryable)
  · rintro rfl
    exact .inr h.recorded_of_ok

end RequestReconcile

namespace World

variable {r : CertificateRequest} {w : World ω} {ns name : String}

/-- Where status writes are accepted, the result of a reconcile and the stored status of its request
correspond. The store may be any that changes of the empty one lead to, and its reads may fail. -/
theorem result_corresponds (a : Authority σ ω) (settings : RequestReconcile.Settings)
    {changes : List Change} (reached : w.store = .afterChanges changes) (accepting : w.Accepting)
    (stored : w.store.requests.get? ⟨ns, name⟩ = some r) :
    ∃ o, (w.run a (RequestReconcile.reconcile settings ns name)).2.store.requests.get? ⟨ns, name⟩
        = some o
      ∧ RequestReconcile.Corresponds (w.callsOf a (RequestReconcile.reconcile settings ns name))
        (w.run a (RequestReconcile.reconcile settings ns name)).1 r o w.store
        (w.run a (RequestReconcile.reconcile settings ns name)).2.store := by
  have keyed := MemoryStore.keyed_of_reached reached
  cases read : w.readRequest ⟨ns, name⟩ with
  | error e =>
    obtain ⟨_, hresult, hstore⟩ := w.unread_of_run a settings read
    rw [hresult, hstore]
    refine ⟨r, stored, RequestReconcile.corresponds_of_same fun e' he => ?_⟩
    split at he
    · cases he
    · cases he
      rfl
  | ok o =>
    obtain rfl : r = o := Option.some.inj (stored.symm.trans (stored_of_readRequest read))
    obtain ⟨record, ending, ⟨hsame, refused⟩ | ⟨r', rfl, hstore⟩⟩ :=
      w.ending_of_run a settings keyed read
    · obtain rfl : record = none := refused accepting
      rw [hsame]
      refine ⟨r, stored, RequestReconcile.corresponds_of_same fun e he => ?_⟩
      rw [he] at ending
      exact ending.isRetryable
    · rw [hstore]
      exact ⟨_, w.store.get?_withStatus r'.status (keyed _ r stored), ending.corresponds⟩

/-- A sample world whose authority answers its calls with these replies. -/
def answering (replies : List Reply) (changes : List Change) : World Script :=
  { sample changes with authority := { Script.new with replies } }

/-- The reply that the certificate could not be stored. -/
def unstored : Reply := .failure (.api ⟨1100, "Failed to write certificate to Database", ""⟩)

/-- A call with an unreadable answer fails its request for good. -/
theorem result_corresponds_to_unreadable_answer :
    ∃ o, ((answering [.failure (.invalidResponse "")] signable).run Script.authority
        (RequestReconcile.reconcile Sample.settings "default" "web")).2.store.requests.get?
          Sample.key = some o
      ∧ o.isFailed = true := by
  have failed : ((answering [.failure (.invalidResponse "")] signable).run Script.authority
      (RequestReconcile.reconcile Sample.settings "default" "web")).1
        = .error (.remoteTerminal (.sign (.invalidResponse ""))) := by rfl
  have stored : (answering [.failure (.invalidResponse "")] signable).store.requests.get?
      ⟨"default", "web"⟩
        = some ((Sample.request [Sample.condition Condition.approved] [] none).atVersion "1") := by
    decide +kernel
  have reached : (answering [.failure (.invalidResponse "")] signable).store
      = .afterChanges signable := rfl
  obtain ⟨o, hafter, corresponds⟩ :=
    result_corresponds Script.authority Sample.settings reached ⟨rfl, rfl⟩ stored
  exact ⟨o, hafter, (corresponds.terminal.mp ⟨_, failed, rfl⟩).2⟩

end World
end CertIssuer

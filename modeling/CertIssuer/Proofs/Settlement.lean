import CertIssuer.Proofs.Records
import CertIssuer.Proofs.Serving
import CertIssuer.Simulation.Script

/-!
What a reconcile leaves in the store when it is not to be run again. It ends well, or with a terminal
error, only after it left the request alone or tried to record something that settles it. A record
that cannot be written is reported in the log only, so what is in the store then depends on whether
the write was accepted.
-/

namespace CertIssuer

variable {σ ω : Type} {settings : RequestReconcile.Settings} {r r' : CertificateRequest}
  {l : List (Access σ)} {b : Except ReconcileError Unit}

namespace RequestReconcile

/-! ### How a reconcile ends that is not run again -/

/-- What a reconcile did that ended well or with a terminal error. -/
inductive Closing (settings : Settings) (r : CertificateRequest) :
    List (Access σ) → Except ReconcileError Unit → Prop
  | left (event : Log.Event) (h : verdict settings r = .leave event) :
      Closing settings r [] (.ok ())
  | denied (failed now : Instant) (written : Except StoreError Unit)
      (h : verdict settings r = .deny) :
      Closing settings r [.writeRequest (deniedRecord r failed now) written] (.ok ())
  /-- The certificate is the only one that was signed. -/
  | issued (kind : IssuerKind) (ns : String) (before : List (Access σ)) (response : SignResponse)
      (now : Instant) (written : Except StoreError Unit) (h : verdict settings r = .sign kind ns)
      (quiet : ∀ x ∈ before, x.isWrite = false)
      (only : ∀ signer request other, .sign signer request (.ok other) ∈ before → other = response) :
      Closing settings r
        (before ++ [.writeRequest (issuedRecord r (Text.encodeUtf8 response.certificate) now) written])
        (.ok ())
  /-- Nothing was signed. -/
  | failed (before : List (Access σ)) (message : String) (now : Instant)
      (written : Except StoreError Unit) (e : ReconcileError)
      (quiet : ∀ x ∈ before, x.isWrite = false)
      (unsigned : ∀ signer request response, .sign signer request (.ok response) ∉ before) :
      Closing settings r
        (before ++ [.writeRequest (unreadyRecord r Reason.failed message now) written]) (.error e)

/-- A reconcile is not run again after success or an error that is not retryable. -/
def Ends (b : Except ReconcileError Unit) : Prop :=
  b = .ok () ∨ ∃ e : ReconcileError, b = .error e ∧ e.isRetryable = false

theorem not_ends {e : ReconcileError} (h : e.isRetryable = true) : ¬ Ends (.error e) := by
  rintro (hok | ⟨e', he, hterminal⟩)
  · cases hok
  · cases he
    rw [h] at hterminal
    cases hterminal

theorem closing_of_signing {kind : IssuerKind} {ns : String} (hv : verdict settings r = .sign kind ns)
    (signing : Signing settings r kind ns l b) (ends : Ends b) : Closing settings r l b := by
  cases signing with
  | unresolved answer e now written h =>
    exact absurd ends (not_ends (Resolve.isRetryable_of_ofAnswer h))
  | keyless answer issuer secret e now written h hkey =>
    exact absurd ends (not_ends (Resolve.isRetryable_of_keyOfAnswer hkey))
  | signerless answer issuer secret serviceKey chain h hkey => exact absurd ends (not_ends rfl)
  | opened answer issuer secret serviceKey signer rest _ h hkey call =>
    cases call with
    | malformed e now written hrequest =>
      refine .failed [_, _, _] _ now written _ ?_ ?_
      · simp [Access.isWrite]
      · simp
    | issued request response now written hrequest =>
      refine .issued kind ns [_, _, _, _] response now written hv ?_ ?_
      · simp [Access.isWrite]
      · simp
    | transient request e hrequest hclass => exact absurd ends (not_ends rfl)
    | rejected request e now written hrequest hclass =>
      refine .failed [_, _, _, _] _ now written _ ?_ ?_
      · simp [Access.isWrite]
      · simp

theorem closing_of_outcome (outcome : Outcome settings r l b) (ends : Ends b) :
    Closing settings r l b := by
  cases outcome with
  | left event h => exact .left event h
  | denied failed now written h => exact .denied failed now written h
  | homeless h => exact absurd ends (not_ends rfl)
  | unknownKind kind now written h =>
    exact .failed [] _ now written _ (by simp) (by simp)
  | signing kind ns _ _ h signing => exact closing_of_signing h signing ends

end RequestReconcile

/-! ### What is stored then -/

variable {faults : List (StoreMethod × StoreError)} {s s' : MemoryStore}

/-- Only writes change the store. -/
theorem Served.store_eq {access : Access σ} (h : Served faults s access s')
    (quiet : access.isWrite = false) : s' = s := by
  cases h with
  | wroteRequest _ | unwrittenRequest | wroteIssuer _ | unwrittenIssuer => cases quiet
  | readRequest _ | missedRequest _ | unreadRequest _ | readIssuer | readSecret | openSigner | sign =>
    rfl

theorem Trace.store_eq (h : Trace faults s l s') (quiet : ∀ x ∈ l, x.isWrite = false) : s' = s := by
  induction h with
  | nil => rfl
  | cons served _ ih =>
    rw [ih fun x hx => quiet x (List.mem_cons_of_mem _ hx)]
    exact served.store_eq (quiet _ List.mem_cons_self)

/-- Behind accesses that write nothing, the last one meets the store as it was. -/
theorem Trace.last {before : List (Access σ)} {access : Access σ}
    (h : Trace faults s (before ++ [access]) s') (quiet : ∀ x ∈ before, x.isWrite = false) :
    Served faults s access s' := by
  obtain ⟨s₁, hbefore, hlast⟩ := h.split
  rw [hbefore.store_eq quiet] at hlast
  cases hlast with
  | cons served rest =>
    cases rest
    exact served

/-- A status that was accepted is stored. -/
theorem Served.stored_of_write {key : ObjectKey}
    (h : Served faults s (.writeRequest r' (.ok ()) : Access σ) s') (hkey : r'.key = key)
    (stored : s.requests.get? key = some r) :
    s'.requests.get? key = some ({ r with status := r'.status }.atVersion s.stamp) := by
  cases h with
  | wroteRequest hok =>
    obtain ⟨o, hget, _, rfl⟩ := MemoryStore.writeRequest_eq_ok hok
    rw [hkey, stored] at hget
    cases hget
    rw [hkey]
    exact Table.get?_insert_self ..

/-! ### Requests that are not looked at again -/

namespace RequestReconcile

variable {key : ObjectKey}

/-- A request shows how a reconcile of it ended: the next one leaves it alone, an error was recorded
as a failure, and a certificate was recorded as it was signed. -/
structure Shows (settings : Settings) (l : List (Access σ)) (b : Except ReconcileError Unit)
    (o : CertificateRequest) : Prop where
  left : ∃ event, verdict settings o = .leave event
  failed : ∀ e, b = .error e →
    Conditions.hasWithReason o.conditions Condition.ready .no Reason.failed = true
  issued : ∀ signer request response, .sign signer request (.ok response) ∈ l →
    o.statusOrEmpty.certificate = Text.encodeUtf8 response.certificate
      ∧ Conditions.hasWithReason o.conditions Condition.ready .yes Reason.issued = true

/-- When every write was accepted, the stored request shows how the reconcile ended. -/
theorem Closing.stored (closing : Closing settings r l b) (trace : Trace faults s l s')
    (keyed : s.Keyed) (stored : s.requests.get? key = some r)
    (accepted : ∀ x ∈ l, x.isFailedWrite = false) :
    ∃ o, s'.requests.get? key = some o ∧ Shows settings l b o := by
  have hkey : r.key = key := keyed key r stored
  cases closing with
  | left event h =>
    cases trace
    exact ⟨r, stored, ⟨event, h⟩, nofun, nofun⟩
  | denied failed now written h =>
    cases written with
    | error e => cases accepted _ List.mem_cons_self
    | ok u =>
      cases trace with
      | cons served rest =>
        cases rest
        have hstored := served.stored_of_write hkey stored
        exact ⟨_, hstored, leave_of_isTerminal settings (isTerminal_deniedRecord r failed now),
          nofun, by simp⟩
  | issued kind ns before response now written h quiet only =>
    cases written with
    | error e => cases accepted _ List.mem_concat_self
    | ok u =>
      have hstored := (trace.last quiet).stored_of_write hkey stored
      refine ⟨_, hstored, leave_of_isTerminal settings (isTerminal_issuedRecord r _ now), nofun, ?_⟩
      intro signer request other mem
      rcases List.mem_append.mp mem with hbefore | hlast
      · rw [only signer request other hbefore]
        exact ⟨rfl, Conditions.hasWithReason_set⟩
      · cases List.mem_singleton.mp hlast
  | failed before message now written e quiet unsigned =>
    cases written with
    | error e => cases accepted _ List.mem_concat_self
    | ok u =>
      have hstored := (trace.last quiet).stored_of_write hkey stored
      refine ⟨_, hstored, leave_of_isTerminal settings (isTerminal_failedRecord r message now),
        fun _ _ => Conditions.hasWithReason_set, ?_⟩
      intro signer request other mem
      rcases List.mem_append.mp mem with hbefore | hlast
      · exact absurd hbefore (unsigned signer request other)
      · cases List.mem_singleton.mp hlast

/-- A reconcile that ends well although its write failed leaves the request as it was, denied and
not recorded or admitted and not signed. -/
theorem Closing.unstored (closing : Closing settings r l (.ok ())) (trace : Trace faults s l s')
    (failed : ∃ x ∈ l, x.isFailedWrite = true) :
    s' = s ∧ (verdict settings r = .deny ∨ ∃ kind ns, verdict settings r = .sign kind ns) := by
  obtain ⟨x, mem, hx⟩ := failed
  cases closing with
  | left event h => cases mem
  | denied failed now written h =>
    cases List.mem_singleton.mp mem
    cases written with
    | ok u => cases hx
    | error e =>
      cases trace with
      | cons served rest =>
        cases rest
        cases served
        exact ⟨rfl, .inl h⟩
  | issued kind ns before response now written h quiet only =>
    rcases List.mem_append.mp mem with hbefore | hlast
    · have hwrite := Access.isWrite_of_isFailedWrite hx
      rw [quiet x hbefore] at hwrite
      cases hwrite
    · cases List.mem_singleton.mp hlast
      cases written with
      | ok u => cases hx
      | error e =>
        cases trace.last quiet
        exact ⟨rfl, .inr ⟨kind, ns, h⟩⟩

/-- A request that is reported missing is not there, and every other one shows how its reconcile
ended. -/
theorem gone_or_stored {ns name : String}
    (path : (reconcile settings ns name : Plan σ _).Path l b) (trace : Trace faults s l s')
    (keyed : s.Keyed) (honest : ∀ e, faults.lookup .readRequest = some e → e.isNotFound = false)
    (ends : Ends b) (accepted : ∀ x ∈ l, x.isFailedWrite = false) :
    (s'.requests.get? ⟨ns, name⟩ = none ∧ b = .ok ()
        ∧ ∀ signer request response, .sign signer request (.ok response) ∉ l)
      ∨ ∃ o, s'.requests.get? ⟨ns, name⟩ = some o ∧ Shows settings l b o := by
  rcases path_reconcile path with ⟨r, rest, rfl, outcome⟩ | ⟨e, rfl, hb⟩
  · right
    cases trace with
    | cons head tail =>
      cases head with
      | readRequest hget =>
        obtain ⟨o, hstored, hshows⟩ :=
          (closing_of_outcome outcome ends).stored tail keyed hget fun x hx =>
            accepted x (List.mem_cons_of_mem _ hx)
        refine ⟨o, hstored, hshows.left, hshows.failed, fun signer request response mem => ?_⟩
        rcases List.mem_cons.mp mem with hread | hrest
        · cases hread
        · exact hshows.issued signer request response hrest
  · left
    by_cases hfound : e.isNotFound = true
    case neg =>
      rw [if_neg hfound] at hb
      exact absurd ends (hb ▸ not_ends rfl)
    rw [if_pos hfound] at hb
    cases trace with
    | cons head tail =>
      cases tail
      cases head with
      | missedRequest hget => exact ⟨hget, hb, by simp⟩
      | unreadRequest hfault =>
        rw [honest e hfault] at hfound
        cases hfound

theorem kept_of_failed_write {ns name : String}
    (path : (reconcile settings ns name : Plan σ _).Path l (.ok ())) (trace : Trace faults s l s')
    (failed : ∃ x ∈ l, x.isFailedWrite = true) :
    s' = s ∧ ∃ o, s.requests.get? ⟨ns, name⟩ = some o
      ∧ (verdict settings o = .deny ∨ ∃ kind ns, verdict settings o = .sign kind ns) := by
  obtain ⟨x, mem, hx⟩ := failed
  rcases path_reconcile path with ⟨r, rest, rfl, outcome⟩ | ⟨e, rfl, _⟩
  · cases trace with
    | cons head tail =>
      cases head with
      | readRequest hget =>
        rcases List.mem_cons.mp mem with rfl | hrest
        · cases hx
        · obtain ⟨hstore, hverdict⟩ :=
            (closing_of_outcome outcome (.inl rfl)).unstored tail ⟨x, hrest, hx⟩
          exact ⟨hstore, r, hget, hverdict⟩
  · cases List.mem_singleton.mp mem
    cases hx

end RequestReconcile

namespace World

/-- A reconcile of the request that is started now attempts no status write and makes no signing
call. -/
def Settled (a : Authority σ ω) (settings : RequestReconcile.Settings) (key : ObjectKey)
    (w : World ω) : Prop :=
  ∀ access ∈ (RequestReconcile.reconcile settings key.ns key.name).accesses (handler a) w,
    access.isAttempt = false

/-- A request that is left alone is settled. -/
theorem settled_of_leave (a : Authority σ ω) {key : ObjectKey} {w : World ω}
    (stored : w.store.requests.get? key = some r)
    (left : ∃ event, RequestReconcile.verdict settings r = .leave event) :
    w.Settled a settings key := by
  intro access mem
  obtain ⟨event, hevent⟩ := left
  obtain ⟨b, path⟩ : ∃ b, (RequestReconcile.reconcile settings key.ns key.name).Path
      ((RequestReconcile.reconcile settings key.ns key.name).accesses (handler a) w) b :=
    ⟨_, Plan.path_run (handler a) _ w⟩
  have trace := w.trace_run a (RequestReconcile.reconcile settings key.ns key.name)
  rcases RequestReconcile.path_reconcile path with ⟨r₀, rest, hl, outcome⟩ | ⟨e, hl, _⟩
  · rw [hl] at trace mem
    cases trace with
    | cons served _ =>
      cases served with
      | readRequest hget =>
        rw [show (⟨key.ns, key.name⟩ : ObjectKey) = key from rfl, stored] at hget
        cases hget
        cases outcome with
        | left _ _ =>
          cases List.mem_singleton.mp mem
          rfl
        | denied _ _ _ h | homeless h | unknownKind _ _ _ h | signing _ _ _ _ h _ =>
          rw [hevent] at h
          cases h
  · rw [hl] at mem
    cases List.mem_singleton.mp mem
    rfl

variable {a : Authority σ ω} {registry : BackoffRegistry} {instant : Instant} {w : World ω}
  {ns : Option String} {name : String}

/-- What is done with the result of a reconcile does not reach the store. -/
theorem store_attend (object : ObjectRef) :
    (w.attend a settings registry instant object).2.store
      = (w.run a (Controller.reconcile settings object)).2.store := by
  simp only [attend]
  split <;> rfl

/-- When only a change is awaited, the reconcile succeeded or its error is not retryable. -/
theorem ends_of_awaitChange {object : ObjectRef}
    (h : (Controller.onResult registry instant object b).map Controller.Reaction.action
      = some .awaitChange) : RequestReconcile.Ends b := by
  cases b with
  | ok u => exact .inl rfl
  | error e =>
    refine .inr ⟨e, rfl, ?_⟩
    rw [← Bool.not_eq_true]
    intro hretryable
    simp only [Controller.onResult, Controller.onError, ReconcileError.errorClass, hretryable,
      if_true, Option.map_map] at h
    obtain ⟨next, _, haction⟩ := Option.map_eq_some_iff.mp h
    cases haction

/-- The accesses of the reconcile of a watched object. -/
def trace (a : Authority σ ω) (settings : RequestReconcile.Settings) (object : ObjectRef)
    (w : World ω) : List (Access σ) :=
  (Controller.reconcile settings object).accesses (handler a) w

/-- Suppose that after a reconcile only a change of the request is awaited. If all its writes were
accepted, then the request is gone or settled, a terminal error is stored as a failure, and a
certificate that was signed is stored as issued. If a write failed and the reconcile ended well all
the same, then the request is still waiting to be denied or signed.

The store may be any that changes of the empty one lead to. Its operations may fail in any way,
except that no read reports a request missing which is there. -/
theorem settled_or_gone_of_awaitChange {changes : List Change}
    (reached : w.store = .afterChanges changes)
    (honest : ∀ e, w.faults.lookup .readRequest = some e → e.isNotFound = false)
    (parked : (w.attend a settings registry instant ⟨.request, ns, name⟩).1.2.map
      Controller.Reaction.action = some .awaitChange) :
    let key : ObjectKey := ⟨ns.getD "", name⟩
    let trace := w.trace a settings ⟨.request, ns, name⟩
    let result := (w.attend a settings registry instant ⟨.request, ns, name⟩).1.1
    let after := (w.attend a settings registry instant ⟨.request, ns, name⟩).2
    ((∀ x ∈ trace, x.isFailedWrite = false) →
        (after.store.requests.get? key = none ∨ after.Settled a settings key)
        ∧ (∀ e, result = .error e → ∃ o, after.store.requests.get? key = some o
          ∧ Conditions.hasWithReason o.conditions Condition.ready .no Reason.failed = true)
        ∧ ∀ signer request response, .sign signer request (.ok response) ∈ trace →
          ∃ o, after.store.requests.get? key = some o
            ∧ o.statusOrEmpty.certificate = Text.encodeUtf8 response.certificate
            ∧ Conditions.hasWithReason o.conditions Condition.ready .yes Reason.issued = true)
      ∧ ((∃ x ∈ trace, x.isFailedWrite = true) → result = .ok () →
        after.store = w.store ∧ ∃ o, after.store.requests.get? key = some o
          ∧ (RequestReconcile.verdict settings o = .deny
            ∨ ∃ kind ns, RequestReconcile.verdict settings o = .sign kind ns)) := by
  intro key trace result after
  have path : (RequestReconcile.reconcile settings (ns.getD "") name).Path trace result :=
    Plan.path_run (handler a) _ w
  have served : Trace w.faults w.store trace after.store := by
    rw [store_attend]
    exact w.trace_run a _
  have ends : RequestReconcile.Ends result := ends_of_awaitChange parked
  have keyed : w.store.Keyed := by
    rw [reached]
    exact MemoryStore.keyed_afterChanges changes
  refine ⟨fun accepted => ?_, fun failed hok => ?_⟩
  · rcases RequestReconcile.gone_or_stored path served keyed honest ends accepted
      with ⟨hgone, hok, unsigned⟩ | ⟨o, hstored, hshows⟩
    · refine ⟨.inl hgone, fun e he => ?_, fun signer request response mem => ?_⟩
      · rw [hok] at he
        cases he
      · exact absurd mem (unsigned signer request response)
    · refine ⟨.inr (settled_of_leave a hstored hshows.left), fun e he => ?_,
        fun signer request response mem => ?_⟩
      · exact ⟨o, hstored, hshows.failed e he⟩
      · exact ⟨o, hstored, hshows.issued signer request response mem⟩
  · rw [hok] at path
    obtain ⟨hstore, o, hget, hverdict⟩ := RequestReconcile.kept_of_failed_write path served failed
    refine ⟨hstore, o, ?_, hverdict⟩
    rw [hstore]
    exact hget

instance (a : Authority σ ω) (settings : RequestReconcile.Settings) (key : ObjectKey)
    (w : World ω) : Decidable (w.Settled a settings key) :=
  inferInstanceAs (Decidable (∀ _ ∈ _, _))

/-- A world after changes of the empty store, with an authority that signs everything. -/
def sample (changes : List Change) : World Script := ⟨.afterChanges changes, [], 0, Script.new, []⟩

/-- A controller of a sample world reconciles the sample request. -/
def attendSample (changes : List Change) :
    (Except ReconcileError Unit × Option Controller.Reaction) × World Script :=
  (sample changes).attend Script.authority Sample.settings (.new 5 300) 0
    ⟨.request, some "default", "web"⟩

/-- An approved request with all that it takes to sign it. -/
def signable : List Change :=
  [.insertRequest (Sample.request [Sample.condition Condition.approved] [] none),
    .insertIssuer .origin Sample.issuer, .insertSecret Sample.secret]

theorem settled_or_gone_of_awaitChange_signable :
    (attendSample signable).2.Settled Script.authority Sample.settings Sample.key := by
  have parked : (attendSample signable).1.2.map Controller.Reaction.action
      = some .awaitChange := by decide +kernel
  have accepted : ∀ x ∈ (sample signable).trace Script.authority Sample.settings
      ⟨.request, some "default", "web"⟩, x.isFailedWrite = false := by decide +kernel
  have stored : ((attendSample signable).2.store.requests.get? Sample.key).isSome = true := by
    decide +kernel
  have h := settled_or_gone_of_awaitChange (w := sample signable) rfl nofun parked
  rcases (h.1 accepted).1 with hgone | hsettled
  · rw [show (attendSample signable).2.store.requests.get? Sample.key = none from hgone] at stored
    cases stored
  · exact hsettled

/-- A denied request, where status writes are disabled. -/
def unwritable : List Change :=
  [.insertRequest (Sample.request [Sample.condition Condition.denied] [] none),
    .allowWrites false]

/-- Where status writes are disabled a denied request is parked, and another reconcile would attempt
to record the denial again. -/
theorem unsettled_after_failed_denial :
    (attendSample unwritable).1.2.map Controller.Reaction.action = some .awaitChange
      ∧ ((attendSample unwritable).2.store.requests.get? Sample.key).isSome = true
      ∧ ¬ (attendSample unwritable).2.Settled Script.authority Sample.settings Sample.key := by
  decide +kernel

end World
end CertIssuer

import CertIssuer.Proofs.Correspondence
import CertIssuer.Proofs.History

/-!
A request is signed at most once. A call that did not end in the one error after which the authority
is to be asked again is the last one for its request: its reconcile records an end, which every later
reconcile finds, as long as status writes are accepted and nobody else touches the Ready conditions.

Whether a request has come to an end is read off its Ready conditions alone, whatever the order in
which they stand and whatever stands between them, so other edits of the request do not matter.
-/

namespace CertIssuer

variable {σ ω : Type}

/-- The Ready conditions of a request. -/
def CertificateRequest.readyConditions (r : CertificateRequest) : List Condition :=
  r.conditions.filter fun c => c.type = Condition.ready

/-- Nothing but the Ready conditions tells whether a request has come to an end. -/
theorem CertificateRequest.isTerminal_congr {r o : CertificateRequest}
    (h : o.readyConditions = r.readyConditions) : o.isTerminal = r.isTerminal := by
  have has_eq : ∀ (x : CertificateRequest) (status : Truth),
      Conditions.has x.conditions Condition.ready status
        = x.readyConditions.any fun c => c.status = status := by
    intro x status
    rw [readyConditions, List.any_filter]
    rfl
  have hasWithReason_eq : ∀ (x : CertificateRequest) (status : Truth) (reason : String),
      Conditions.hasWithReason x.conditions Condition.ready status reason
        = x.readyConditions.any fun c => c.status = status && c.reason = some reason := by
    intro x status reason
    rw [readyConditions, List.any_filter]
    simp only [Conditions.hasWithReason, Bool.and_assoc]
  rw [isTerminal, isTerminal, has_eq, has_eq, hasWithReason_eq, hasWithReason_eq, hasWithReason_eq,
    hasWithReason_eq, h]

/-! ### One reconcile -/

namespace RequestReconcile

variable {settings : Settings} {r r' : CertificateRequest} {calls : List (SignCall σ)}
  {record : Option CertificateRequest} {b : Except ReconcileError Unit} {call : SignCall σ}

/-- A request that has come to an end is left alone. -/
theorem Ending.left_of_isTerminal (ending : Ending settings r calls record b)
    (terminal : r.isTerminal = true) : calls = [] ∧ record = none := by
  have absurd_of : ∀ {p : Prop}, r.isTerminal = false → p := by
    intro p hopen
    rw [hopen] at terminal
    cases terminal
  cases ending with
  | left event h => exact ⟨rfl, rfl⟩
  | denied failed now h => exact absurd_of h.notTerminal
  | unrecorded calls e retryable transient h => exact absurd_of h.notTerminal
  | pending reason message now e retryable passing h => exact absurd_of h.notTerminal
  | failed calls message now e terminal unsigned h => exact absurd_of h.notTerminal
  | issued call response now answered h => exact absurd_of h.notTerminal

/-- After a call that is not to be made again, an end is recorded. -/
theorem Ending.isTerminal_of_call (ending : Ending settings r calls record b)
    (mem : call ∈ calls) (final : call.isTransient = false) :
    ∃ r', record = some r' ∧ r'.isTerminal = true := by
  cases ending with
  | left event h => cases mem
  | denied failed now h => cases mem
  | unrecorded calls e retryable transient h =>
    rw [transient call mem] at final
    cases final
  | pending reason message now e retryable passing h => cases mem
  | failed calls message now e terminal unsigned h =>
    exact ⟨_, rfl, isTerminal_failedRecord r message now⟩
  | issued call response now answered h => exact ⟨_, rfl, isTerminal_issuedRecord r _ now⟩

end RequestReconcile

namespace World

variable {a : Authority σ ω} {w : World ω} {key : ObjectKey} {events : List (Event ω)}
  {settings : RequestReconcile.Settings} {call : SignCall σ}

/-- The request has come to an end. -/
def Closed (key : ObjectKey) (w : World ω) : Prop :=
  ∃ r, w.store.requests.get? key = some r ∧ r.isTerminal = true

/-- Where a request has come to an end, a reconcile of it does nothing. -/
theorem Closed.reconcile (a : Authority σ ω) (settings : RequestReconcile.Settings)
    (closed : w.Closed key) (keyed : w.store.Keyed) :
    w.callsOf a (RequestReconcile.reconcile settings key.ns key.name) = []
      ∧ (w.run a (RequestReconcile.reconcile settings key.ns key.name)).2.store = w.store := by
  obtain ⟨r, stored, terminal⟩ := closed
  cases read : w.readRequest key with
  | error e =>
    obtain ⟨hcalls, _, hstore⟩ := w.unread_of_run a settings read
    exact ⟨hcalls, hstore⟩
  | ok o =>
    obtain rfl : r = o := Option.some.inj (stored.symm.trans (stored_of_readRequest read))
    obtain ⟨record, ending, hstore⟩ := w.ending_of_run a settings keyed read
    obtain ⟨hcalls, rfl⟩ := ending.left_of_isTerminal terminal
    rcases hstore with ⟨hsame, _⟩ | ⟨r', hrecord, _⟩
    · exact ⟨hcalls, hsame⟩
    · cases hrecord

/-- Where status writes are accepted, a request whose call is not to be made again comes to an
end. -/
theorem closed_of_call (keyed : w.store.Keyed) (accepting : w.Accepting)
    (mem : call ∈ w.callsOf a (RequestReconcile.reconcile settings key.ns key.name))
    (final : call.isTransient = false) :
    (w.run a (RequestReconcile.reconcile settings key.ns key.name)).2.Closed key := by
  obtain ⟨r, record, ending, hstored⟩ := stored_after_call keyed accepting mem
  obtain ⟨r', hrecord, terminal⟩ := ending.isTerminal_of_call mem final
  exact ⟨_, hstored r' hrecord, terminal⟩

/-! ### Histories -/

/-- An event that does not disturb a request: the request is reconciled only where status writes are
accepted, and nobody else takes it out or touches its Ready conditions. -/
def Undisturbed (key : ObjectKey) (w : World ω) : Event ω → Prop
  | .reconcile _ other => other = key → w.Accepting
  | .change c => ∀ r ∈ w.store.requests.get? key, ∃ o ∈ (w.store.apply c).requests.get? key,
      o.readyConditions = r.readyConditions
  | .reconcileIssuer _ _ | .surround _ _ _ => True

instance (key : ObjectKey) (w : World ω) : ∀ e : Event ω, Decidable (w.Undisturbed key e)
  | .reconcile _ other => inferInstanceAs (Decidable (other = key → w.Accepting))
  | .change c => inferInstanceAs (Decidable (∀ r ∈ w.store.requests.get? key,
      ∃ o ∈ (w.store.apply c).requests.get? key, o.readyConditions = r.readyConditions))
  | .reconcileIssuer _ _ | .surround _ _ _ => inferInstanceAs (Decidable True)

/-- A request that has come to an end stays there, and no call is made for it. -/
theorem Closed.after {e : Event ω} (closed : w.Closed key) (keyed : w.store.Keyed)
    (undisturbed : w.Undisturbed key e) :
    w.callsAt a key e = [] ∧ (w.after a e).Closed key := by
  obtain ⟨r, stored, terminal⟩ := closed
  cases e with
  | reconcile settings other =>
    by_cases h : other = key
    · subst h
      obtain ⟨hcalls, hstore⟩ := Closed.reconcile a settings ⟨r, stored, terminal⟩ keyed
      refine ⟨by rw [callsAt, if_pos rfl, hcalls], r, ?_, terminal⟩
      rw [World.after, hstore]
      exact stored
    · refine ⟨if_neg h, r, ?_, terminal⟩
      rw [World.after, get?_reconcile_of_ne a settings keyed (Ne.symm h)]
      exact stored
  | reconcileIssuer clusterNs issuer =>
    refine ⟨rfl, r, ?_, terminal⟩
    rw [World.after, requests_of_readiness]
    exact stored
  | change c =>
    obtain ⟨o, hafter, hready⟩ := undisturbed r stored
    refine ⟨rfl, o, hafter, ?_⟩
    rw [CertificateRequest.isTerminal_congr hready]
    exact terminal
  | surround faults now authority => exact ⟨rfl, r, stored, terminal⟩

/-- No call is made for a request that has come to an end. -/
theorem Closed.callsAlong (closed : w.Closed key) (keyed : w.store.Keyed)
    (undisturbed : w.Along a (Undisturbed key) events) : w.callsAlong a key events = [] := by
  induction events generalizing w with
  | nil => rfl
  | cons e events ih =>
    obtain ⟨hcalls, hclosed⟩ := closed.after (a := a) keyed undisturbed.1
    rw [World.callsAlong, hcalls, List.nil_append]
    exact ih hclosed (keyed_after a keyed e) undisturbed.2

/-- A call that is not to be made again brings its request to an end. -/
theorem closed_after_of_call {e : Event ω} (keyed : w.store.Keyed)
    (undisturbed : w.Undisturbed key e) (mem : call ∈ w.callsAt a key e)
    (final : call.isTransient = false) : (w.after a e).Closed key := by
  cases e with
  | reconcile settings other =>
    rw [callsAt] at mem
    split at mem
    · next h =>
      subst h
      exact closed_of_call keyed (undisturbed rfl) mem final
    · cases mem
  | reconcileIssuer _ _ | change _ | surround _ _ _ => cases mem

/-- Only calls that are to be made again are followed by others. -/
theorem pairwise_callsAlong (keyed : w.store.Keyed)
    (undisturbed : w.Along a (Undisturbed key) events) :
    (w.callsAlong a key events).Pairwise fun call _ => call.isTransient = true := by
  induction events generalizing w with
  | nil => exact .nil
  | cons e events ih =>
    have hkeyed := keyed_after a keyed e
    refine List.pairwise_append.mpr ⟨?_, ih hkeyed undisturbed.2, fun call mem next hnext => ?_⟩
    · have one := length_callsAt_le_one a key w e
      match w.callsAt a key e, one with
      | [], _ => exact .nil
      | [call], _ => exact List.pairwise_singleton _ _
    · -- a call that is not to be made again closes the request, so no later event makes one
      cases final : call.isTransient with
      | true => rfl
      | false =>
        have closed := closed_after_of_call keyed undisturbed.1 mem final
        rw [closed.callsAlong hkeyed undisturbed.2] at hnext
        cases hnext

/-- Of calls that are followed by others only if they are to be made again, at most one is not. -/
theorem length_finals_le_one {calls : List (SignCall σ)}
    (ordered : calls.Pairwise fun call _ => call.isTransient = true) :
    (calls.filter fun call => !call.isTransient).length ≤ 1 := by
  induction ordered with
  | nil => exact Nat.zero_le 1
  | @cons call calls before _ ih =>
    cases final : call.isTransient with
    | true => simpa [final] using ih
    | false =>
      -- nothing follows this one
      cases calls with
      | nil => simp [final]
      | cons next calls =>
        rw [before next List.mem_cons_self] at final
        cases final

/-- Over a history in which nobody disturbs a request, at most one signing call for it ends in
anything else than the error after which the authority is to be asked again, and no call follows
that one. -/
theorem signed_at_most_once {changes : List Change} (reached : w.store = .afterChanges changes)
    (undisturbed : w.Along a (Undisturbed key) events) :
    ((w.callsAlong a key events).filter fun call => !call.isTransient).length ≤ 1
      ∧ ∀ before call after, w.callsAlong a key events = before ++ call :: after →
        call.isTransient = false → after = [] := by
  have keyed := MemoryStore.keyed_of_reached reached
  have ordered := pairwise_callsAlong keyed undisturbed
  refine ⟨length_finals_le_one ordered, ?_⟩
  intro before call after heq final
  rw [heq] at ordered
  cases after with
  | nil => rfl
  | cons next after =>
    have rest := (List.pairwise_append.mp ordered).2.1
    rw [List.rel_of_pairwise_cons rest List.mem_cons_self] at final
    cases final

/-- A request that the authority cannot store at first, is edited, and is then delivered twice. -/
def redelivery : List (Event Script) :=
  [.reconcile Sample.settings Sample.key,
    .surround [] 60 { Script.new with replies := [.certificate "signed"] },
    .reconcileIssuer "cluster" (.origin ⟨"default", "prod"⟩),
    .change (.insertRequest (Sample.request
      [Sample.condition "Other", Sample.condition Condition.approved] [] none)),
    .reconcile Sample.settings Sample.key, .reconcile Sample.settings Sample.key]

theorem signed_at_most_once_redelivery :
    let w := answering [unstored] signable
    (w.callsAlong Script.authority Sample.key redelivery).map SignCall.isTransient = [true, false]
      ∧ ((w.callsAlong Script.authority Sample.key redelivery).filter
        fun call => !call.isTransient).length ≤ 1 := by
  intro w
  have undisturbed : w.Along Script.authority (Undisturbed Sample.key) redelivery := by
    decide +kernel
  have reached : w.store = .afterChanges signable := rfl
  exact ⟨by decide +kernel, (signed_at_most_once reached undisturbed).1⟩

end World
end CertIssuer

import CertIssuer.Proofs.Endings
import CertIssuer.Proofs.Verification

/-!
Histories: reconciles of requests and issuers, one after the other, while others change the store
and what surrounds it in between. Of all reconciles only those of a request itself reach it, so
between them it is as others leave it.
-/

namespace CertIssuer

variable {σ ω : Type}

/-- What happens next in a history. -/
inductive Event (ω : Type) where
  /-- A request is reconciled. -/
  | reconcile (settings : RequestReconcile.Settings) (key : ObjectKey)
  /-- An issuer is reconciled. -/
  | reconcileIssuer (clusterNs : String) (key : IssuerKey)
  /-- Somebody else changes the store. -/
  | change (c : Change)
  /-- Other operations fail from now on, time passes, and the authority changes. -/
  | surround (faults : List (StoreMethod × StoreError)) (now : Instant) (authority : ω)

namespace World

/-- The world after an event. -/
def after (a : Authority σ ω) (w : World ω) : Event ω → World ω
  | .reconcile settings key => (w.run a (RequestReconcile.reconcile settings key.ns key.name)).2
  | .reconcileIssuer clusterNs key => (w.run a (Readiness.reconcile clusterNs key)).2
  | .change c => { w with store := w.store.apply c }
  | .surround faults now authority => { w with faults, now, authority }

/-- The world after events. -/
def history (a : Authority σ ω) (w : World ω) (events : List (Event ω)) : World ω :=
  events.foldl (after a) w

/-- The signing calls that an event makes for a request. -/
def callsAt (a : Authority σ ω) (key : ObjectKey) (w : World ω) : Event ω → List (SignCall σ)
  | .reconcile settings other =>
    if other = key then w.callsOf a (RequestReconcile.reconcile settings key.ns key.name) else []
  | _ => []

/-- The signing calls that events make for a request. -/
def callsAlong (a : Authority σ ω) (key : ObjectKey) : World ω → List (Event ω) → List (SignCall σ)
  | _, [] => []
  | w, e :: events => w.callsAt a key e ++ (w.after a e).callsAlong a key events

/-- Every event of a history is as `P` says of it and of the world it meets. -/
def Along (a : Authority σ ω) (P : World ω → Event ω → Prop) : World ω → List (Event ω) → Prop
  | _, [] => True
  | w, e :: events => P w e ∧ (w.after a e).Along a P events

instance Along.decidable {P : World ω → Event ω → Prop} [∀ w e, Decidable (P w e)]
    (a : Authority σ ω) : ∀ (w : World ω) (events : List (Event ω)), Decidable (w.Along a P events)
  | _, [] => inferInstanceAs (Decidable True)
  | w, e :: events =>
    have : Decidable ((w.after a e).Along a P events) := Along.decidable a (w.after a e) events
    inferInstanceAs (Decidable (P w e ∧ (w.after a e).Along a P events))

variable {a : Authority σ ω} {w : World ω} {key : ObjectKey} {P : World ω → Event ω → Prop}
  {events : List (Event ω)}

/-- What every event keeps is kept by a history. -/
theorem Along.keep {I : World ω → Prop} (h : w.Along a P events) (start : I w)
    (step : ∀ w e, I w → P w e → I (w.after a e)) : I (w.history a events) := by
  induction events generalizing w with
  | nil => exact start
  | cons e events ih => exact ih h.2 (step w e start h.1)

/-- An event makes at most one call. -/
theorem length_callsAt_le_one (a : Authority σ ω) (key : ObjectKey) (w : World ω) (e : Event ω) :
    (w.callsAt a key e).length ≤ 1 := by
  cases e with
  | reconcile settings other =>
    rw [callsAt]
    split
    · exact w.length_callsOf_le_one a settings key.ns key.name
    · exact Nat.zero_le 1
  | reconcileIssuer _ _ | change _ | surround _ _ _ => exact Nat.zero_le 1

/-! ### Whom an event reaches -/

/-- A reconcile changes nothing, or the status of its own request. -/
theorem store_of_reconcile (a : Authority σ ω) (settings : RequestReconcile.Settings)
    (keyed : w.store.Keyed) (key : ObjectKey) :
    (w.run a (RequestReconcile.reconcile settings key.ns key.name)).2.store = w.store
      ∨ ∃ r status, r.key = key
        ∧ (w.run a (RequestReconcile.reconcile settings key.ns key.name)).2.store
          = w.store.withStatus r status := by
  cases read : w.readRequest key with
  | error e => exact .inl (w.unread_of_run a settings read).2.2
  | ok r =>
    obtain ⟨record, _, ⟨hsame, _⟩ | ⟨r', _, hstore⟩⟩ := w.ending_of_run a settings keyed read
    · exact .inl hsame
    · exact .inr ⟨r, r'.status, keyed key r (stored_of_readRequest read), hstore⟩

/-- A reconcile of another request leaves a request as it is. -/
theorem get?_reconcile_of_ne (a : Authority σ ω) (settings : RequestReconcile.Settings)
    {other : ObjectKey} (keyed : w.store.Keyed) (h : key ≠ other) :
    (w.run a (RequestReconcile.reconcile settings other.ns other.name)).2.store.requests.get? key
      = w.store.requests.get? key := by
  rcases w.store_of_reconcile a settings keyed other with hsame | ⟨r, status, rfl, hstore⟩
  · rw [hsame]
  · rw [hstore]
    exact MemoryStore.get?_withStatus_of_ne h

/-- Requests stay under their keys. -/
theorem keyed_after (a : Authority σ ω) (keyed : w.store.Keyed) (e : Event ω) :
    (w.after a e).store.Keyed := by
  cases e with
  | reconcile settings other =>
    unfold after
    rcases w.store_of_reconcile a settings keyed other with hsame | ⟨r, status, _, hstore⟩
    · rw [hsame]
      exact keyed
    · rw [hstore]
      exact keyed.withStatus
  | reconcileIssuer clusterNs issuer =>
    intro key r stored
    rw [after, w.requests_of_readiness a clusterNs issuer] at stored
    exact keyed key r stored
  | change c => exact (MemoryStore.Touched.of_apply keyed c).keyed keyed
  | surround faults now authority => exact keyed

end World
end CertIssuer

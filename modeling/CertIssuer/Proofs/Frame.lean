import CertIssuer.Proofs.History
import CertIssuer.Proofs.Settlement

/-!
The frame of a reconcile: what it leaves alone. A reconcile writes the whole status of its request
back, and still nothing in the store changes but that status and its version. Within the status, the
conditions of others stay as they are and where they are, and a certificate or a failure time that
is there stays.
-/

namespace CertIssuer

variable {σ ω : Type}

namespace MemoryStore

/-- The stores are the same but for the requests with these keys and for what they count. -/
structure SameBut (keys : List ObjectKey) (before after : MemoryStore) : Prop where
  requests : ∀ key, key ∉ keys → after.requests.get? key = before.requests.get? key
  issuers : after.issuers = before.issuers
  secrets : after.secrets = before.secrets
  writable : after.writable = before.writable

variable {s s' : MemoryStore} {r : CertificateRequest} {status : Option RequestStatus}
  {key : ObjectKey} {keys : List ObjectKey}

theorem SameBut.refl (keys : List ObjectKey) (s : MemoryStore) : SameBut keys s s :=
  ⟨fun _ _ => rfl, rfl, rfl, rfl⟩

/-- A status write of one of the requests makes no other difference. -/
theorem SameBut.withStatus (same : SameBut keys s s') (mem : r.key ∈ keys) :
    SameBut keys s (s'.withStatus r status) := by
  refine ⟨fun key absent => ?_, same.issuers, same.secrets, same.writable⟩
  have hne : key ≠ r.key := by
    rintro rfl
    exact absent mem
  rw [get?_withStatus_of_ne hne]
  exact same.requests key absent

end MemoryStore

/-! ### Within the status -/

namespace RequestReconcile

variable {settings : Settings} {r r' : CertificateRequest} {calls : List (SignCall σ)}
  {b : Except ReconcileError Unit}

/-- A status that a reconcile with these signing calls may write over another one. -/
structure Framed (calls : List (SignCall σ)) (old new : RequestStatus) : Prop where
  /-- The first Ready condition is replaced, or one is appended. -/
  conditions : ∃ c, c.type = Condition.ready
    ∧ Conditions.PutsFirst c old.conditions new.conditions
  ca : new.ca = old.ca
  /-- A certificate comes from the signer, and only where there is none. -/
  certificate : new.certificate ≠ old.certificate →
    old.certificate = [] ∧ ∃ call ∈ calls, ∃ response, call.answer = .ok response
  /-- A failure time comes with a denial, and only where there is none. -/
  failureTime : new.failureTime ≠ old.failureTime →
    old.failureTime = none ∧ Conditions.has old.conditions Condition.denied .yes = true

/-- Setting the Ready condition leaves all others where they are. -/
theorem putsFirst_withReady (r : CertificateRequest) (status : Truth) (reason message : String)
    (now : Instant) : ∃ c, c.type = Condition.ready
      ∧ Conditions.PutsFirst c r.conditions (withReady r status reason message now).conditions := by
  obtain ⟨c, agree, puts⟩ := Conditions.putsFirst_put
    ⟨Condition.ready, status, some now.format, some reason, some message⟩ r.conditions
  exact ⟨c, agree.type, puts⟩

/-- Whatever a reconcile records, it keeps to its part of the status. -/
theorem Ending.framed (h : Ending settings r calls (some r') b) :
    Framed calls r.statusOrEmpty r'.statusOrEmpty := by
  cases h with
  | denied failed now h =>
    refine ⟨putsFirst_withReady (withFailureTime r failed) _ _ _ now, rfl,
      fun hne => absurd rfl hne, fun hne => ⟨?_, h.denied⟩⟩
    cases htime : r.statusOrEmpty.failureTime with
    | none => rfl
    | some time =>
      refine absurd ?_ hne
      change some (r.statusOrEmpty.failureTime.getD failed.format) = _
      rw [htime, Option.getD_some]
  | pending reason message now e _ _ _ | failed _ message now e _ _ _ =>
    exact ⟨putsFirst_withReady r _ _ _ now, rfl, fun hne => absurd rfl hne,
      fun hne => absurd rfl hne⟩
  | issued call response now answered h =>
    exact ⟨putsFirst_withReady (withCertificate r _) _ _ _ now, rfl,
      fun _ => ⟨h.noCertificate, call, List.mem_singleton_self _, response, answered⟩,
      fun hne => absurd rfl hne⟩

end RequestReconcile

/-! ### In the store -/

namespace World

variable {w : World ω}

/-- A reconcile of a request leaves everything else in the store as it is. -/
theorem sameBut_of_reconcile (a : Authority σ ω) (settings : RequestReconcile.Settings)
    (keyed : w.store.Keyed) (key : ObjectKey) : w.store.SameBut [key]
      (w.run a (RequestReconcile.reconcile settings key.ns key.name)).2.store := by
  rcases w.store_of_reconcile a settings keyed key with hsame | ⟨r, status, hkey, hstore⟩
  · rw [hsame]
    exact .refl [key] w.store
  · rw [hstore]
    exact (MemoryStore.SameBut.refl [key] w.store).withStatus (List.mem_singleton.mpr hkey)

/-- One reconcile changes nothing in the store but the status and the version of its request, and of
the status only what is its own to change. The store may be any that changes of the empty one lead
to, and all of its operations may fail. -/
theorem only_own_status_changed (a : Authority σ ω) (settings : RequestReconcile.Settings)
    {changes : List Change} (reached : w.store = .afterChanges changes) (key : ObjectKey) :
    let reconcile : Plan σ (Except ReconcileError Unit) :=
      RequestReconcile.reconcile settings key.ns key.name
    let after := (w.run a reconcile).2.store
    w.store.SameBut [key] after
      ∧ (after = w.store ∨ ∃ r o, w.store.requests.get? key = some r
        ∧ after.requests.get? key = some o ∧ o.spec = r.spec
        ∧ o.metadata = { r.metadata with resourceVersion := o.metadata.resourceVersion }
        ∧ RequestReconcile.Framed (w.callsOf a reconcile) r.statusOrEmpty o.statusOrEmpty) := by
  intro reconcile after
  have keyed := MemoryStore.keyed_of_reached reached
  refine ⟨w.sameBut_of_reconcile a settings keyed key, ?_⟩
  cases read : w.readRequest key with
  | error e => exact .inl (w.unread_of_run a settings read).2.2
  | ok r =>
    have stored := stored_of_readRequest read
    have hkey : r.key = key := keyed key r stored
    obtain ⟨record, ending, ⟨hsame, _⟩ | ⟨r', rfl, hstore⟩⟩ :=
      w.ending_of_run a settings keyed read
    · exact .inl hsame
    · have hafter : after = w.store.withStatus r r'.status := hstore
      rw [hafter]
      refine .inr ⟨r, _, stored, w.store.get?_withStatus r'.status hkey, rfl, rfl, ?_⟩
      exact ending.framed

/-- A request with conditions of others, some of them repeated, without an issuer to resolve, and
beside it another request. -/
def shared : List Change :=
  let other : CertificateRequest := Sample.request [] [] none
  [.insertRequest (Sample.request [⟨"Archived", .no, none, none, none⟩,
      Sample.condition Condition.approved, ⟨Condition.ready, .unknown, none, none, none⟩,
      Sample.condition Condition.approved, ⟨Condition.ready, .unknown, none, none, none⟩] [] none),
    .insertRequest { other with metadata := { other.metadata with name := some "api" } }]

/-- Of five conditions the third one is replaced, and the other request stays as it is. -/
theorem only_own_status_changed_among_others :
    ∃ o, ((sample shared).run Script.authority
        (RequestReconcile.reconcile Sample.settings "default" "web")).2.store.requests.get?
          Sample.key = some o
      ∧ o.statusOrEmpty.ca = []
      ∧ ((sample shared).run Script.authority
        (RequestReconcile.reconcile Sample.settings "default" "web")).2.store.requests.get?
          ⟨"default", "api"⟩ = (sample shared).store.requests.get? ⟨"default", "api"⟩ := by
  have reached : (sample shared).store = .afterChanges shared := rfl
  have written : ((sample shared).run Script.authority
      (RequestReconcile.reconcile Sample.settings "default" "web")).2.store.writes
        ≠ (sample shared).store.writes := by decide +kernel
  have status : ((sample shared).store.requests.get? Sample.key).map
      (fun r => (CertificateRequest.statusOrEmpty r).ca) = some [] := by decide +kernel
  obtain ⟨same, hsame | ⟨r, o, stored, hafter, _, _, framed⟩⟩ :=
    only_own_status_changed Script.authority Sample.settings reached Sample.key
  · exact absurd (congrArg MemoryStore.writes hsame) written
  · rw [stored] at status
    exact ⟨o, hafter, framed.ca.trans (Option.some.inj status), same.requests _ (by decide)⟩

end World
end CertIssuer

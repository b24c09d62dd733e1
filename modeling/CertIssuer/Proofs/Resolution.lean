import CertIssuer.Proofs.Isolation
import CertIssuer.Proofs.Issuers
import CertIssuer.Proofs.SigningGate
import CertIssuer.Proofs.Verification

/-!
Readiness and resolution agree. An issuer is checked by looking for its service key, and a request
resolves its issuer by looking at the Ready condition and then for the service key. What the check
has found is what the requests find: an issuer that was verified resolves to the very key that was
verified, one whose key could not be read resolves to nothing, and one whose specification is
invalid is left as it was.
-/

namespace CertIssuer

variable {σ ω : Type}

namespace IssuerKey

/-- The issuer serves the requests of that namespace: an origin issuer those of its own one, a
cluster issuer all of them. -/
def Serves : IssuerKey → String → Prop
  | .origin key, ns => key.ns = ns
  | .cluster _, _ => True

variable {key : IssuerKey} {ns : String}

/-- A request of a namespace that an issuer serves refers to it by its kind and name. -/
theorem Serves.referred_eq (serves : key.Serves ns) : referred key.kind ns key.name = key := by
  cases key with
  | origin key =>
    obtain rfl : key.ns = ns := serves
    rfl
  | cluster name => rfl

end IssuerKey

namespace Resolve

/-- An issuer that is not ready is not resolved. -/
theorem ofAnswer_of_unready {key : IssuerKey} {requestNs clusterNs : String} {i : Issuer}
    (unready : Conditions.has i.conditions Condition.ready .yes = false) :
    ofAnswer key requestNs clusterNs (.ok i) = .error (.issuerNotReady key.display) := by
  rw [ofAnswer, ofIssuer, if_neg (by simp [unready])]

/-- Resolving an issuer reads it and looks at what was read. -/
theorem run_issuer (a : Authority σ ω) (w : World ω) (kind : IssuerKind)
    (name ns clusterNs : String) :
    (w.run a (issuer kind name ns clusterNs)).1
      = ofAnswer (.referred kind ns name) ns clusterNs (w.readIssuer (.referred kind ns name)) := by
  obtain ⟨answer, haccesses, hresult⟩ :=
    path_issuer (Plan.path_run (World.handler a) (issuer kind name ns clusterNs) w)
  have answers := w.answersAll_run a (issuer kind name ns clusterNs)
  rw [haccesses] at answers
  obtain ⟨_, ⟨hanswer, _⟩, _⟩ := answers
  have hanswer : w.readIssuer (.referred kind ns name) = answer := hanswer
  rw [hanswer]
  exact hresult

/-- Resolving a service key reads its secret and looks at what was read. -/
theorem run_credential (a : Authority σ ω) (w : World ω) (ns : String)
    (selector : SecretKeySelector) :
    (w.run a (credential ns selector)).1
      = keyOfAnswer selector (w.readSecret ⟨ns, selector.name⟩) := by
  obtain ⟨answer, haccesses, hresult⟩ :=
    path_credential (Plan.path_run (World.handler a) (credential ns selector) w)
  have answers := w.answersAll_run a (credential ns selector)
  rw [haccesses] at answers
  obtain ⟨_, ⟨hanswer, _⟩, _⟩ := answers
  have hanswer : w.readSecret ⟨ns, selector.name⟩ = answer := hanswer
  rw [hanswer]
  exact hresult

end Resolve

/-! ### What a check leaves -/

namespace Readiness

variable {a : Authority σ ω} {clusterNs : String} {key : IssuerKey} {i : Issuer} {w w' : World ω}
  {l : List (Access σ)} {b : Except ReconcileError Unit}

/-- An error that stands for a service key that could not be read: its secret does not exist, does
not hold it, or could not be read itself. -/
def KeyUnread (l : List (Access σ)) : ReconcileError → Prop
  | .credentialNotFound _ | .missingCredentialKey _ _ => True
  | .store e => ∃ key, .readSecret key (.error e) ∈ l
  | _ => False

/-- Status writes of issuers of a kind are accepted. -/
structure Accepting (kind : IssuerKind) (w : World ω) : Prop where
  writable : w.store.writable = true
  faultless : w.faults.lookup (.writeIssuer kind) = none

/-- What is recorded after the secret was read is stored. -/
theorem store_of_record {r : Issuer} {secretKey : ObjectKey} {secret : Except StoreError Secret}
    {written : Except StoreError Unit}
    (answers : w.AnswersAll a [.readSecret secretKey secret, .writeIssuer key.kind r written] w')
    (stored : w.store.issuers.get? key = some i) (hkey : .ofIssuer key.kind i = key)
    (hmeta : r.metadata = i.metadata) (accepting : Accepting key.kind w) :
    w.readSecret secretKey = secret ∧ written = .ok ()
      ∧ w'.store = w.store.withIssuerStatus key i r.status ∧ w'.faults = w.faults := by
  obtain ⟨w₁, ⟨hread, hsame⟩, w₂, hwrite, hend⟩ := answers
  obtain rfl : w = w₁ := hsame.symm
  have hwrite : w.writeIssuer key.kind r = (written, w₂) := hwrite
  rw [World.writeIssuer_of_stored (by rw [hkey]; exact stored) hmeta accepting.writable
    accepting.faultless, hkey] at hwrite
  obtain ⟨rfl, rfl⟩ := Prod.mk.inj hwrite
  obtain rfl : w' = _ := hend
  exact ⟨hread, rfl, rfl, rfl⟩

/-- A check that ends well has verified a service key, and the issuer is stored as verified. -/
theorem Check.verified_of_ok (check : Check clusterNs key.kind i l b) (hb : b = .ok ())
    (answers : w.AnswersAll a l w') (stored : w.store.issuers.get? key = some i)
    (hkey : .ofIssuer key.kind i = key) (accepting : Accepting key.kind w) :
    ∃ ns secret serviceKey now, keyNs key.kind clusterNs i = .ok ns
      ∧ .readSecret ⟨ns, i.spec.serviceKeyRef.name⟩ (.ok secret) ∈ l
      ∧ w.readSecret ⟨ns, i.spec.serviceKeyRef.name⟩ = .ok secret
      ∧ secret.value? i.spec.serviceKeyRef.key = some serviceKey
      ∧ w'.store = w.store.withIssuerStatus key i (verifiedRecord key.kind i now).status
      ∧ w'.faults = w.faults := by
  cases check with
  | homeless e h | invalid e h | keyless ns secret e now written h hvalid hkey => cases hb
  | verified ns secret serviceKey now written h hvalid hsecret =>
    obtain ⟨x, rfl, hvalue⟩ := Resolve.keyOfAnswer_eq_ok.mp hsecret
    obtain ⟨hread, _, hstore, hfaults⟩ := store_of_record answers stored hkey rfl accepting
    exact ⟨ns, x, serviceKey, now, h, List.mem_cons_self, hread, hvalue, hstore, hfaults⟩

/-- A read of the issuer says nothing about its service key. -/
theorem KeyUnread.of_readIssuer {answer : Except StoreError Issuer} {e : ReconcileError}
    (h : KeyUnread (.readIssuer key answer :: l) e) : KeyUnread l e := by
  cases e with
  | store fault =>
    obtain ⟨secretKey, mem⟩ := h
    rcases List.mem_cons.mp mem with heq | mem
    · cases heq
    · exact ⟨secretKey, mem⟩
  | _ => exact h

/-- The namespace in which the service key is looked for is the one in which the requests that the
issuer serves look for it. -/
theorem credentialNs_of_serves {keyNs ns : String}
    (h : Readiness.keyNs key.kind clusterNs i = .ok keyNs) (hkey : .ofIssuer key.kind i = key)
    (serves : key.Serves ns) :
    keyNs = key.kind.credentialNs ns clusterNs := by
  cases key with
  | cluster name =>
    cases h
    rfl
  | origin key =>
    obtain rfl : key.ns = ns := serves
    have hns : i.metadata.ns.getD "" = key.ns := by
      cases hkey
      rfl
    change Readiness.keyNs .origin clusterNs i = .ok keyNs at h
    unfold Readiness.keyNs at h
    split at h
    · next heq => cases heq
    · next home _ hm =>
      cases h
      rw [hm] at hns
      exact hns
    · cases h

/-- An issuer without the namespace it has to have is the only one whose key is nowhere. -/
theorem keyNs_eq_error {kind : IssuerKind} {e : ReconcileError}
    (h : keyNs kind clusterNs i = .error e) :
    e = .store (.missingMetadata kind.text "namespace") := by
  unfold keyNs at h
  split at h
  · cases h
  · cases h
  · exact (Except.error.inj h).symm

theorem validate_eq_error {spec : IssuerSpec} {e : ReconcileError} (h : validate spec = .error e) :
    ∃ text, e = .invalidIssuer text := by
  unfold validate at h
  split at h
  · exact ⟨_, (Except.error.inj h).symm⟩
  · split at h
    · exact ⟨_, (Except.error.inj h).symm⟩
    · cases h

/-- A check whose service key could not be read leaves its issuer without it. -/
theorem Check.keyless_of_keyUnread {e : ReconcileError} (check : Check clusterNs key.kind i l b)
    (hb : b = .error e) (unread : KeyUnread l e) (answers : w.AnswersAll a l w')
    (stored : w.store.issuers.get? key = some i) (hkey : .ofIssuer key.kind i = key)
    (accepting : Accepting key.kind w) :
    ∃ now, w'.store = w.store.withIssuerStatus key i (keylessRecord i e now).status
      ∧ w'.faults = w.faults := by
  cases check with
  | homeless e' h =>
    cases hb
    obtain rfl := keyNs_eq_error h
    obtain ⟨secretKey, mem⟩ := unread
    cases mem
  | invalid e' h =>
    cases hb
    obtain ⟨text, rfl⟩ := validate_eq_error h
    exact unread.elim
  | verified ns secret serviceKey now written h hvalid hsecret =>
    obtain ⟨_, rfl, _⟩ := store_of_record answers stored hkey rfl accepting
    cases hb
  | keyless ns secret e' now written h hvalid hsecret =>
    cases hb
    obtain ⟨_, _, hstore, hfaults⟩ := store_of_record answers stored hkey rfl accepting
    exact ⟨now, hstore, hfaults⟩

/-- A check that finds the specification invalid leaves everything as it is. -/
theorem Check.store_of_invalid {text : String} (check : Check clusterNs key.kind i l b)
    (hb : b = .error (.invalidIssuer text)) (answers : w.AnswersAll a l w') :
    w'.store = w.store := by
  cases check with
  | homeless e h | invalid e h =>
    obtain rfl : w' = w := answers
    rfl
  | verified ns secret serviceKey now written h hvalid hsecret =>
    cases written <;> cases hb
  | keyless ns secret e now written h hvalid hsecret =>
    cases hb
    cases secret with
    | error fault =>
      have hfault : Resolve.secretError fault = .invalidIssuer text := Except.error.inj hsecret
      unfold Resolve.secretError at hfault
      split at hfault <;> cases hfault
    | ok x =>
      simp only [Resolve.keyOfAnswer, Resolve.select] at hsecret
      split at hsecret <;> cases hsecret

end Readiness

/-! ### Requests for an issuer that is not ready -/

namespace RequestReconcile

variable {a : Authority σ ω} {w w' : World ω} {settings : Settings} {r : CertificateRequest}
  {i : Issuer} {issuerKey : IssuerKey} {keyNs : String} {kind : IssuerKind} {ns : String}
  {l : List (Access σ)} {b : Except ReconcileError Unit}

/-- A request that names an issuer is one to be signed by it. -/
theorem Names.exists_verdict (names : Names settings r issuerKey keyNs) :
    ∃ kind ns, verdictOnIssuer r = .sign kind ns := by
  obtain ⟨ns, home, ⟨horigin, _⟩ | ⟨hcluster, _⟩⟩ := names
  · exact ⟨.origin, ns, verdictOnIssuer_eq_sign.mpr ⟨home, horigin⟩⟩
  · exact ⟨.cluster, ns, verdictOnIssuer_eq_sign.mpr ⟨home, hcluster⟩⟩

/-- Where the issuer is not ready, a request is recorded as pending, and that is all. -/
theorem Outcome.pending_of_unready (outcome : Outcome settings r l b)
    (hv : verdict settings r = .sign kind ns) (answers : w.AnswersAll a l w')
    (found : w.readIssuer (.referred kind ns r.spec.issuerRef.name) = .ok i)
    (unready : Conditions.has i.conditions Condition.ready .yes = false) :
    b = .error (.issuerNotReady (IssuerKey.referred kind ns r.spec.issuerRef.name).display)
      ∧ ∃ message now written,
        l = [.readIssuer (.referred kind ns r.spec.issuerRef.name) (.ok i),
          .writeRequest (unreadyRecord r Reason.pending message now) written] := by
  cases outcome with
  | left _ h | denied _ _ _ h | homeless h | unknownKind _ _ _ h =>
    rw [hv] at h
    cases h
  | signing _ _ _ _ h signing =>
    rw [hv] at h
    cases h
    cases signing with
    | unresolved answer e now written h =>
      obtain ⟨_, ⟨hread, _⟩, _⟩ := answers
      obtain rfl : .ok i = answer := found.symm.trans hread
      rw [Resolve.ofAnswer_of_unready unready] at h
      cases h
      exact ⟨rfl, _, now, written, rfl⟩
    | keyless answer _ _ _ _ _ h _ | signerless answer _ _ _ _ h _
    | opened answer _ _ _ _ _ _ h _ _ =>
      obtain ⟨_, ⟨hread, _⟩, _⟩ := answers
      obtain rfl : .ok i = answer := found.symm.trans hread
      rw [Resolve.ofAnswer_of_unready unready] at h
      cases h

end RequestReconcile

namespace World

variable {a : Authority σ ω} {w : World ω} {settings : RequestReconcile.Settings}
  {r : CertificateRequest} {i : Issuer} {requestKey : ObjectKey} {key : IssuerKey}
  {keyNs clusterNs : String}

/-- An eligible request whose issuer is not ready is left pending, and no service key is used. -/
theorem pending_of_unready (keyed : w.store.Keyed) (accepting : w.Accepting)
    (read : w.readRequest requestKey = .ok r) (eligible : RequestReconcile.Eligible settings r)
    (names : RequestReconcile.Names settings r key keyNs) (found : w.readIssuer key = .ok i)
    (unready : Conditions.has i.conditions Condition.ready .yes = false) :
    let reconcile : Plan σ (Except ReconcileError Unit) :=
      RequestReconcile.reconcile settings requestKey.ns requestKey.name
    (w.run a reconcile).1 = .error (.issuerNotReady key.display)
      ∧ w.serviceKeysOf a reconcile = []
      ∧ ∃ o, (w.run a reconcile).2.store.requests.get? requestKey = some o
        ∧ Conditions.hasWithReason o.conditions Condition.ready .no Reason.pending = true := by
  intro reconcile
  have path := Plan.path_run (handler a) reconcile w
  have answers := w.answersAll_run a reconcile
  unfold serviceKeysOf
  rcases RequestReconcile.path_reconcile path with ⟨o, rest, hl, outcome⟩ | ⟨e, hl, _⟩
  · rw [hl] at answers ⊢
    obtain ⟨_, ⟨hread, rfl⟩, hrest⟩ := answers
    obtain rfl : r = o := Except.ok.inj (read.symm.trans hread)
    have hkey := keyed requestKey r (stored_of_readRequest read)
    have stored : w.unlogged.store.requests.get? r.key = some r := by
      rw [hkey]
      exact stored_of_readRequest read
    obtain ⟨kind, ns, hv⟩ := names.exists_verdict
    obtain ⟨rfl, -⟩ := names.resolved hv
    rw [← RequestReconcile.verdict_of_admitted
      (RequestReconcile.eligible_iff_admitted.mp eligible)] at hv
    obtain ⟨hb, message, now, written, rfl⟩ := outcome.pending_of_unready hv hrest found unready
    refine ⟨hb, rfl, ?_⟩
    obtain ⟨_, ⟨_, rfl⟩, w₂, hwrite, hend⟩ := hrest
    have hworld : (w.run a reconcile).2.unlogged = w₂ := hend
    have hstore := congrArg World.store hworld
    change (w.run a reconcile).2.store = w₂.store at hstore
    rw [hstore]
    rcases hwrite.store_of_write stored rfl with hs | ⟨_, unaccepting⟩
    · rw [hs, MemoryStore.get?_withStatus _ _ hkey]
      exact ⟨_, rfl, Conditions.hasWithReason_set⟩
    · exact absurd ⟨accepting.writable, accepting.faultless⟩ unaccepting
  · rw [hl] at answers
    obtain ⟨_, ⟨hread, _⟩, _⟩ := answers
    cases read.symm.trans hread

/-! ### Agreement -/

/-- A stored issuer is reconciled as a check of it, or cannot be read, which is an error. -/
theorem checked_of_stored (a : Authority σ ω) (clusterNs : String)
    (stored : w.store.issuers.get? key = some i)
    (honest : ∀ e, w.faults.lookup (.readIssuer key.kind) = some e → e.isNotFound = false) :
    let reconcile : Plan σ (Except ReconcileError Unit) := Readiness.reconcile clusterNs key
    (∃ l, reconcile.accesses (handler a) w = .readIssuer key (.ok i) :: l
        ∧ Readiness.Check clusterNs key.kind i l (w.run a reconcile).1
        ∧ w.unlogged.AnswersAll a l (w.run a reconcile).2.unlogged
        ∧ w.faults.lookup (.readIssuer key.kind) = none)
      ∨ ∃ e, reconcile.accesses (handler a) w = [.readIssuer key (.error e)]
        ∧ (w.run a reconcile).1 = .error (.store e) := by
  intro reconcile
  have answers := w.answersAll_run a reconcile
  rcases Readiness.path_reconcile (Plan.path_run (handler a) reconcile w)
    with ⟨o, l, hl, check⟩ | ⟨e, hl, hb⟩
  · rw [hl] at answers
    obtain ⟨_, ⟨hread, rfl⟩, hrest⟩ := answers
    have hread : w.readIssuer key = .ok o := hread
    obtain rfl : i = o := Option.some.inj (stored.symm.trans (stored_of_readIssuer hread))
    refine .inl ⟨l, hl, check, hrest, ?_⟩
    cases hfault : w.faults.lookup (.readIssuer key.kind) with
    | none => rfl
    | some e =>
      rw [readIssuer, guarded, hfault] at hread
      cases hread
  · rw [hl] at answers
    obtain ⟨_, ⟨hread, _⟩, _⟩ := answers
    have hread : w.readIssuer key = .error e := hread
    have hfound : e.isNotFound = false := by
      cases hfault : w.faults.lookup (.readIssuer key.kind) with
      | none => cases hread.symm.trans (readIssuer_of_stored stored hfault)
      | some fault =>
        rw [readIssuer, guarded, hfault] at hread
        cases hread
        exact honest e hfault
    rw [hfound] at hb
    exact .inr ⟨e, hl, hb⟩

/-- An issuer whose status was written is read with that status. -/
theorem readIssuer_of_withIssuerStatus {v : World ω} {status : Option IssuerStatus}
    (hstore : v.store = w.store.withIssuerStatus key i status) (hfaults : v.faults = w.faults)
    (readable : w.faults.lookup (.readIssuer key.kind) = none) :
    v.readIssuer key = .ok ({ i with status := status }.atVersion w.store.stamp) := by
  refine readIssuer_of_stored ?_ (hfaults ▸ readable)
  rw [hstore]
  exact Table.get?_insert_self ..

/-- A verified issuer is resolved for the requests that it serves, and its service key is the one
that was verified. -/
theorem resolved_of_verified (a : Authority σ ω) (clusterNs : String) (keyed : w.store.IssuersKeyed)
    (stored : w.store.issuers.get? key = some i)
    (honest : ∀ e, w.faults.lookup (.readIssuer key.kind) = some e → e.isNotFound = false)
    (accepting : Readiness.Accepting key.kind w)
    (ended : (w.run a (Readiness.reconcile clusterNs key)).1 = .ok ()) {ns : String}
    (serves : key.Serves ns) :
    let reconcile : Plan σ (Except ReconcileError Unit) := Readiness.reconcile clusterNs key
    ∃ credentialNs secret serviceKey,
      ((w.run a reconcile).2.run a (Resolve.issuer key.kind key.name ns clusterNs)).1
          = .ok ⟨key.kind, key.display, i.spec, credentialNs⟩
        ∧ .readSecret ⟨credentialNs, i.spec.serviceKeyRef.name⟩ (.ok secret)
          ∈ reconcile.accesses (handler a) w
        ∧ secret.value? i.spec.serviceKeyRef.key = some serviceKey
        ∧ ((w.run a reconcile).2.run a (Resolve.credential credentialNs i.spec.serviceKeyRef)).1
          = .ok serviceKey := by
  intro reconcile
  have hkey := keyed key i stored
  rcases w.checked_of_stored a clusterNs stored honest
    with ⟨l, hl, check, answers, readable⟩ | ⟨e, _, hb⟩
  · obtain ⟨keyNs, secret, serviceKey, now, hns, hmem, hsecret, hvalue, hstore, hfaults⟩ :=
      check.verified_of_ok ended answers stored hkey ⟨accepting.writable, accepting.faultless⟩
    change (w.run a reconcile).2.store = _ at hstore
    change (w.run a reconcile).2.faults = w.faults at hfaults
    refine ⟨keyNs, secret, serviceKey, ?_, ?_, hvalue, ?_⟩
    · rw [Resolve.run_issuer, serves.referred_eq,
        readIssuer_of_withIssuerStatus hstore hfaults readable,
        Readiness.credentialNs_of_serves hns hkey serves]
      exact Resolve.ofAnswer_eq_ok.mpr ⟨_, rfl, Conditions.has_set, rfl⟩
    · rw [hl]
      exact List.mem_cons_of_mem _ hmem
    · have hkept : (w.run a reconcile).2.readSecret ⟨keyNs, i.spec.serviceKeyRef.name⟩
          = .ok secret := by
        rw [← hsecret, readSecret, readSecret, guarded, guarded, MemoryStore.readSecret,
          MemoryStore.readSecret, hfaults, hstore]
        rfl
      rw [Resolve.run_credential, hkept]
      exact Resolve.keyOfAnswer_eq_ok.mpr ⟨_, rfl, hvalue⟩
  · cases ended.symm.trans hb

/-- An issuer whose service key could not be read is no longer ready. -/
theorem unready_of_keyUnread (a : Authority σ ω) (clusterNs : String) (keyed : w.store.IssuersKeyed)
    (stored : w.store.issuers.get? key = some i)
    (single : i.conditions.countP (fun c => c.type = Condition.ready) ≤ 1)
    (honest : ∀ e, w.faults.lookup (.readIssuer key.kind) = some e → e.isNotFound = false)
    (accepting : Readiness.Accepting key.kind w) {e : ReconcileError}
    (ended : (w.run a (Readiness.reconcile clusterNs key)).1 = .error e)
    (unread : Readiness.KeyUnread
      ((Readiness.reconcile clusterNs key).accesses (handler a) w) e) :
    ∃ i', (w.run a (Readiness.reconcile clusterNs key)).2.readIssuer key = .ok i'
      ∧ Conditions.has i'.conditions Condition.ready .yes = false
      ∧ (w.Accepting → (w.run a (Readiness.reconcile clusterNs key)).2.Accepting) := by
  have hkey := keyed key i stored
  rcases w.checked_of_stored a clusterNs stored honest
    with ⟨l, hl, check, answers, readable⟩ | ⟨fault, hl, hb⟩
  · rw [hl] at unread
    obtain ⟨now, hstore, hfaults⟩ := check.keyless_of_keyUnread ended
      unread.of_readIssuer answers stored hkey ⟨accepting.writable, accepting.faultless⟩
    change (w.run a (Readiness.reconcile clusterNs key)).2.store = _ at hstore
    change (w.run a (Readiness.reconcile clusterNs key)).2.faults = w.faults at hfaults
    refine ⟨_, readIssuer_of_withIssuerStatus hstore hfaults readable,
      Conditions.has_set_eq_false_of_single single (by decide), fun requests => ⟨?_, ?_⟩⟩
    · rw [hstore]
      exact requests.writable
    · rw [hfaults]
      exact requests.faultless
  · cases ended.symm.trans hb
    rw [hl] at unread
    obtain ⟨secretKey, mem⟩ := unread.of_readIssuer
    cases mem

/-- An issuer whose specification is invalid is left as it is. -/
theorem store_of_invalidIssuer (a : Authority σ ω) (clusterNs : String)
    (stored : w.store.issuers.get? key = some i)
    (honest : ∀ e, w.faults.lookup (.readIssuer key.kind) = some e → e.isNotFound = false)
    {text : String}
    (ended : (w.run a (Readiness.reconcile clusterNs key)).1 = .error (.invalidIssuer text)) :
    (w.run a (Readiness.reconcile clusterNs key)).2.store = w.store := by
  rcases w.checked_of_stored a clusterNs stored honest
    with ⟨l, _, check, answers, _⟩ | ⟨e, _, hb⟩
  · have hstore := check.store_of_invalid ended answers
    exact hstore
  · cases ended.symm.trans hb

/-- What a reconcile of a stored issuer finds is what the requests find afterwards, where status
writes are accepted and a stored issuer is not reported missing.

If it ends well, the issuer is resolved for every namespace that it serves, with its specification,
and the service key that is resolved for it is the one that was read and verified. If it ends
because the service key could not be read, the issuer is not ready, and every eligible request that
names it is left pending, without a service key being used. If it ends because the specification is
invalid, nothing has changed. -/
theorem readiness_and_resolution_agree (a : Authority σ ω) (clusterNs : String)
    {changes : List Change} (reached : w.store = .afterChanges changes)
    (stored : w.store.issuers.get? key = some i)
    (single : i.conditions.countP (fun c => c.type = Condition.ready) ≤ 1)
    (honest : ∀ e, w.faults.lookup (.readIssuer key.kind) = some e → e.isNotFound = false)
    (accepting : w.Accepting) (recording : Readiness.Accepting key.kind w) :
    let check : Plan σ (Except ReconcileError Unit) := Readiness.reconcile clusterNs key
    let checked := (w.run a check).2
    ((w.run a check).1 = .ok () → ∀ ns, key.Serves ns → ∃ credentialNs secret serviceKey,
        (checked.run a (Resolve.issuer key.kind key.name ns clusterNs)).1
            = .ok ⟨key.kind, key.display, i.spec, credentialNs⟩
          ∧ .readSecret ⟨credentialNs, i.spec.serviceKeyRef.name⟩ (.ok secret)
            ∈ check.accesses (handler a) w
          ∧ secret.value? i.spec.serviceKeyRef.key = some serviceKey
          ∧ (checked.run a (Resolve.credential credentialNs i.spec.serviceKeyRef)).1
            = .ok serviceKey)
      ∧ (∀ e, (w.run a check).1 = .error e →
        Readiness.KeyUnread (check.accesses (handler a) w) e →
        (∀ ns, key.Serves ns → (checked.run a (Resolve.issuer key.kind key.name ns clusterNs)).1
            = .error (.issuerNotReady key.display))
          ∧ ∀ settings requestKey r keyNs, checked.readRequest requestKey = .ok r →
            RequestReconcile.Eligible settings r → RequestReconcile.Names settings r key keyNs →
            let reconcile : Plan σ (Except ReconcileError Unit) :=
              RequestReconcile.reconcile settings requestKey.ns requestKey.name
            (checked.run a reconcile).1 = .error (.issuerNotReady key.display)
              ∧ checked.serviceKeysOf a reconcile = []
              ∧ ∃ o, (checked.run a reconcile).2.store.requests.get? requestKey = some o
                ∧ Conditions.hasWithReason o.conditions Condition.ready .no Reason.pending = true)
      ∧ ∀ text, (w.run a check).1 = .error (.invalidIssuer text) → checked.store = w.store := by
  intro check checked
  have issuersKeyed := MemoryStore.issuersKeyed_of_reached reached
  refine ⟨fun ended ns serves => ?_, fun e ended unread => ?_, fun text ended => ?_⟩
  · exact resolved_of_verified a clusterNs issuersKeyed stored honest recording ended serves
  · obtain ⟨i', found, unready, accepts⟩ :=
      unready_of_keyUnread a clusterNs issuersKeyed stored single honest recording ended unread
    refine ⟨fun ns serves => ?_, fun settings requestKey r keyNs read eligible names => ?_⟩
    · rw [Resolve.run_issuer, serves.referred_eq, found]
      exact Resolve.ofAnswer_of_unready unready
    · have keyed : checked.store.Keyed := by
        rw [MemoryStore.Keyed, w.requests_of_readiness a clusterNs key]
        exact MemoryStore.keyed_of_reached reached
      exact pending_of_unready keyed (accepts accepting) read eligible names found unready
  · exact store_of_invalidIssuer a clusterNs stored honest ended

/-- The signable request without the secret that holds the service key of its issuer. -/
def keyless : List Change :=
  [.insertRequest (Sample.request [Sample.condition Condition.approved] [] none),
    .insertIssuer .origin Sample.issuer]

/-- The service key of an issuer that was verified is resolved, and an issuer whose secret is gone
is ready no more. -/
theorem readiness_and_resolution_agree_with_and_without_secret :
    (∃ serviceKey, (((sample signable).run Script.authority
        (Readiness.reconcile "cluster" (.origin ⟨"default", "prod"⟩))).2.run Script.authority
          (Resolve.credential "default" Sample.issuer.spec.serviceKeyRef)).1 = .ok serviceKey)
      ∧ (((sample keyless).run Script.authority
        (Readiness.reconcile "cluster" (.origin ⟨"default", "prod"⟩))).2.run Script.authority
          (Resolve.issuer .origin "prod" "default" "cluster")).1
            = .error (.issuerNotReady "default/prod") := by
  constructor
  · have stored : (sample signable).store.issuers.get? (.origin ⟨"default", "prod"⟩)
        = some (Sample.issuer.atVersion "2") := by decide +kernel
    obtain ⟨verified, _⟩ := readiness_and_resolution_agree Script.authority "cluster"
      (w := sample signable) rfl stored (by decide) nofun (by decide) ⟨rfl, rfl⟩
    obtain ⟨credentialNs, secret, serviceKey, hissuer, _, _, hkey⟩ := verified rfl "default" rfl
    obtain rfl : "default" = credentialNs := by
      cases hissuer
      rfl
    exact ⟨serviceKey, hkey⟩
  · have stored : (sample keyless).store.issuers.get? (.origin ⟨"default", "prod"⟩)
        = some (Sample.issuer.atVersion "2") := by decide +kernel
    obtain ⟨_, unread, _⟩ := readiness_and_resolution_agree Script.authority "cluster"
      (w := sample keyless) rfl stored (by decide) nofun (by decide) ⟨rfl, rfl⟩
    exact (unread (.credentialNotFound (.notFound Secret.resource "service-key")) rfl
      trivial).1 "default" rfl

end World
end CertIssuer

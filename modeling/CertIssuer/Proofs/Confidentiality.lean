import CertIssuer.Proofs.Correspondence
import CertIssuer.Proofs.Keyless
import CertIssuer.Proofs.TwoRuns

/-!
The service key goes to the authority and nowhere else. Two worlds that differ in the bytes of one
key of one secret are told apart by nothing but opening a signer: every other operation either does
not look at secrets, or hands bytes on that are looked at by opening a signer only.

A plan without keys runs the same in both worlds, and what is left are the few steps around the
service key, which are paired one by one.
-/

namespace CertIssuer

variable {σ ω α β : Type}

/-! ### Worlds that differ in one key -/

/-- A key of a secret. -/
structure KeySite where
  secret : ObjectKey
  key : String

/-- At this site the one table has `b` and the other `b'`, and they have the same elsewhere. -/
structure SecretsDiffer (site : KeySite) (b b' : Bytes) (t t' : Table ObjectKey Secret) :
    Prop where
  apart : ∀ k, k ≠ site.secret → t'.get? k = t.get? k
  here : ∃ s s', t.get? site.secret = some s ∧ t'.get? site.secret = some s'
    ∧ s.value? site.key = some b ∧ s'.value? site.key = some b'
    ∧ ∀ n, n ≠ site.key → s'.value? n = s.value? n

/-- The worlds differ in the bytes at one site, and their authorities are related in this way. -/
structure World.DifferAt (site : KeySite) (b b' : Bytes) (related : ω → ω → Prop)
    (w v : World ω) : Prop where
  store : v.store = { w.store with secrets := v.store.secrets }
  secrets : SecretsDiffer site b b' w.store.secrets v.store.secrets
  faults : v.faults = w.faults
  now : v.now = w.now
  authority : related w.authority v.authority

namespace MemoryStore

variable {s s' : MemoryStore} {r : CertificateRequest} {kind : IssuerKind} {i : Issuer}

/-- A status write does not look at secrets. -/
theorem writeRequest_withSecrets (s : MemoryStore) (secrets : Table ObjectKey Secret)
    (r : CertificateRequest) : ({ s with secrets := secrets } : MemoryStore).writeRequest r
      = (s.writeRequest r).map fun s' => { s' with secrets := secrets } := by
  unfold writeRequest
  cases hwritable : s.writable with
  | false => rfl
  | true =>
    change (replaceStatus _ _ s.stamp (s.requests.get? r.key) r).map _ = _
    cases replaceStatus CertificateRequest.resource r.metadata.anyName s.stamp
      (s.requests.get? r.key) r <;> rfl

theorem writeIssuer_withSecrets (s : MemoryStore) (secrets : Table ObjectKey Secret)
    (kind : IssuerKind) (i : Issuer) :
    ({ s with secrets := secrets } : MemoryStore).writeIssuer kind i
      = (s.writeIssuer kind i).map fun s' => { s' with secrets := secrets } := by
  unfold writeIssuer
  cases hwritable : s.writable with
  | false => rfl
  | true =>
    change (replaceStatus _ _ s.stamp (s.issuers.get? (.ofIssuer kind i)) i).map _ = _
    cases replaceStatus kind.resource i.metadata.anyName s.stamp
      (s.issuers.get? (.ofIssuer kind i)) i <;> rfl

theorem secrets_of_writeRequest (h : s.writeRequest r = .ok s') : s'.secrets = s.secrets := by
  obtain ⟨o, _, _, rfl⟩ := writeRequest_eq_ok h
  rfl

theorem secrets_of_writeIssuer (h : s.writeIssuer kind i = .ok s') : s'.secrets = s.secrets := by
  obtain ⟨o, _, _, rfl⟩ := writeIssuer_eq_ok h
  rfl

end MemoryStore

namespace World

variable {site : KeySite} {b b' : Bytes} {related : ω → ω → Prop} {a : Authority σ ω}
  {w v : World ω}

/-! ### Operations without keys -/

namespace DifferAt

theorem weaken {related' : ω → ω → Prop} (differ : DifferAt site b b' related w v)
    (h : ∀ x y, related x y → related' x y) : DifferAt site b b' related' w v :=
  { differ with authority := h _ _ differ.authority }

/-- Whatever the authorities have to do with each other. -/
theorem forget (differ : DifferAt site b b' related w v) :
    DifferAt site b b' (fun _ _ => True) w v := differ.weaken fun _ _ _ => trivial

theorem noting (differ : DifferAt site b b' related w v) (events events' : List Log.Event) :
    DifferAt site b b' related (w.noting events) (v.noting events') :=
  ⟨differ.store, differ.secrets, differ.faults, differ.now, differ.authority⟩

theorem guarded_eq (differ : DifferAt site b b' related w v) (method : StoreMethod)
    (answer : Except StoreError α) : v.guarded method answer = w.guarded method answer := by
  rw [guarded, guarded, differ.faults]

/-- A write that does not look at secrets has the same result, and leaves them as they were. -/
theorem written (differ : DifferAt site b b' related w v) {answer : Except StoreError MemoryStore}
    (kept : ∀ s, answer = .ok s → s.secrets = w.store.secrets) :
    (v.written (answer.map fun s => { s with secrets := v.store.secrets })).1 = (w.written answer).1
      ∧ DifferAt site b b' related (w.written answer).2
        (v.written (answer.map fun s => { s with secrets := v.store.secrets })).2 := by
  cases answer with
  | error e => exact ⟨rfl, differ⟩
  | ok s =>
    have secrets := differ.secrets
    rw [← kept s rfl] at secrets
    exact ⟨rfl, rfl, secrets, differ.faults, differ.now, differ.authority⟩

theorem kept_of_guarded {method : StoreMethod} {answer : Except StoreError MemoryStore}
    (kept : ∀ s, answer = .ok s → s.secrets = w.store.secrets) :
    ∀ s, w.guarded method answer = .ok s → s.secrets = w.store.secrets := by
  intro s h
  unfold guarded at h
  split at h
  · cases h
  · exact kept s h

theorem guarded_map (differ : DifferAt site b b' related w v) (method : StoreMethod)
    (answer : Except StoreError α) (f : α → β) :
    v.guarded method (answer.map f) = (w.guarded method answer).map f := by
  rw [guarded, guarded, differ.faults]
  split <;> rfl

theorem writeRequest (differ : DifferAt site b b' related w v) (r : CertificateRequest) :
    (v.writeRequest r).1 = (w.writeRequest r).1
      ∧ DifferAt site b b' related (w.writeRequest r).2 (v.writeRequest r).2 := by
  have hwrite : v.store.writeRequest r
      = (w.store.writeRequest r).map fun s => { s with secrets := v.store.secrets } := by
    rw [← MemoryStore.writeRequest_withSecrets, ← differ.store]
  rw [World.writeRequest, World.writeRequest, hwrite, differ.guarded_map]
  exact differ.written (kept_of_guarded fun _ => MemoryStore.secrets_of_writeRequest)

theorem writeIssuer (differ : DifferAt site b b' related w v) (kind : IssuerKind) (i : Issuer) :
    (v.writeIssuer kind i).1 = (w.writeIssuer kind i).1
      ∧ DifferAt site b b' related (w.writeIssuer kind i).2 (v.writeIssuer kind i).2 := by
  have hwrite : v.store.writeIssuer kind i
      = (w.store.writeIssuer kind i).map fun s => { s with secrets := v.store.secrets } := by
    rw [← MemoryStore.writeIssuer_withSecrets, ← differ.store]
  rw [World.writeIssuer, World.writeIssuer, hwrite, differ.guarded_map]
  exact differ.written (kept_of_guarded fun _ => MemoryStore.secrets_of_writeIssuer)

theorem requests_eq (differ : DifferAt site b b' related w v) :
    v.store.requests = w.store.requests := by
  rw [differ.store]

theorem issuers_eq (differ : DifferAt site b b' related w v) :
    v.store.issuers = w.store.issuers := by
  rw [differ.store]

/-- An operation without keys is answered alike. -/
theorem handle (differ : DifferAt site b b' related w v) {op : Op σ} (h : op.isKeyless = true) :
    ((handler a).handle op v).1 = ((handler a).handle op w).1
      ∧ DifferAt site b b' related ((handler a).handle op w).2 ((handler a).handle op v).2 := by
  cases op with
  | readRequest key =>
    refine ⟨?_, differ⟩
    change v.guarded _ _ = w.guarded _ _
    rw [differ.guarded_eq, MemoryStore.readRequest, MemoryStore.readRequest, differ.requests_eq]
  | readIssuer key =>
    refine ⟨?_, differ⟩
    change v.guarded _ _ = w.guarded _ _
    rw [differ.guarded_eq, MemoryStore.readIssuer, MemoryStore.readIssuer, differ.issuers_eq]
  | writeRequest r => exact differ.writeRequest r
  | writeIssuer kind i => exact differ.writeIssuer kind i
  | now => exact ⟨differ.now, differ⟩
  | note event => exact ⟨rfl, differ.noting _ _⟩
  | tally _ => exact ⟨rfl, differ⟩
  | readSecret _ | openSigner _ | sign _ _ => cases h

end DifferAt

/-- The results are the same, and the worlds differ as before. -/
def Alike (site : KeySite) (b b' : Bytes) (related : ω → ω → Prop) (r s : α × World ω) : Prop :=
  s.1 = r.1 ∧ DifferAt site b b' related r.2 s.2

/-- Plans that ran alike go on with the same value. -/
theorem Paired.alike_bind {p q : Plan σ α} {f g : α → Plan σ β}
    {after : β × World ω → β × World ω → Prop}
    (h : Paired a w v p q (Alike site b b' related))
    (next : ∀ x w' v', DifferAt site b b' related w' v' → Paired a w' v' (f x) (g x) after) :
    Paired a w v (p.bind f) (q.bind g) after := by
  refine h.bind fun x y w' v' alike => ?_
  obtain ⟨rfl, differ⟩ : y = x ∧ DifferAt site b b' related w' v' := alike
  exact next y w' v' differ

/-- A plan without keys runs alike. -/
theorem Paired.of_keyless {p : Plan σ α} (h : p.Keyless) (differ : DifferAt site b b' related w v) :
    Paired a w v p p (Alike site b b' related) := by
  induction p generalizing w v with
  | done x => exact .done ⟨rfl, differ⟩
  | ask op next ih =>
    obtain ⟨hop, hnext⟩ := h
    have first : Paired a w v (Plan.perform op) (Plan.perform op) (Alike site b b' related) := by
      refine ⟨?_, differ.handle hop⟩
      cases op with
      | readRequest _ | readIssuer _ | writeRequest _ | writeIssuer _ _ | now | note _ | tally _ =>
        rfl
      | readSecret _ | openSigner _ | sign _ _ => cases hop
    change Paired a w v ((Plan.perform op).bind next) ((Plan.perform op).bind next) _
    exact first.alike_bind fun x w' v' differ' => ih x (hnext x) differ'

/-- After a plan without keys both go on with the same value. -/
theorem Paired.keyless_bind {p : Plan σ α} {f g : α → Plan σ β}
    {after : β × World ω → β × World ω → Prop} (h : p.Keyless)
    (differ : DifferAt site b b' related w v)
    (next : ∀ x w' v', DifferAt site b b' related w' v' → Paired a w' v' (f x) (g x) after) :
    Paired a w v (p.bind f) (p.bind g) after :=
  (Paired.of_keyless h differ).alike_bind next

/-! ### The steps around the key -/

/-- The service keys are the same, or those in which the worlds differ. -/
def KeysAlike (b b' : Bytes) (x y : Except ReconcileError Bytes) : Prop :=
  y = x ∨ x = .ok b ∧ y = .ok b'

/-- A secret that is there in one world is there in the other, with the same value under every key
but one. -/
theorem DifferAt.keyOfAnswer (differ : DifferAt site b b' related w v) (key : ObjectKey)
    (selector : SecretKeySelector) :
    KeysAlike b b' (Resolve.keyOfAnswer selector (w.readSecret key))
      (Resolve.keyOfAnswer selector (v.readSecret key)) := by
  rw [readSecret, readSecret, differ.guarded_eq]
  unfold guarded
  cases w.faults.lookup .readSecret with
  | some e => exact .inl rfl
  | none =>
    dsimp only
    rw [MemoryStore.readSecret, MemoryStore.readSecret]
    by_cases hsecret : key = site.secret
    · obtain ⟨s, s', hs, hs', hb, hb', hothers⟩ := differ.secrets.here
      rw [hsecret, hs, hs']
      by_cases hsite : selector.key = site.key
      · refine .inr ⟨?_, ?_⟩
        · exact Resolve.keyOfAnswer_eq_ok.mpr ⟨s, rfl, hsite ▸ hb⟩
        · exact Resolve.keyOfAnswer_eq_ok.mpr ⟨s', rfl, hsite ▸ hb'⟩
      · left
        change Resolve.select selector s' = Resolve.select selector s
        rw [Resolve.select, Resolve.select, hothers _ hsite]
    · rw [differ.secrets.apart _ hsecret]
      exact .inl rfl

/-- Resolving a service key brings up the same key, or those in which the worlds differ. -/
theorem DifferAt.paired_credential (differ : DifferAt site b b' related w v) (ns : String)
    (selector : SecretKeySelector) :
    Paired a w v (Resolve.credential ns selector) (Resolve.credential ns selector)
      fun r s => KeysAlike b b' r.1 s.1 ∧ DifferAt site b b' related r.2 s.2 := by
  have reading : Paired a w v (Plan.perform (.readSecret ⟨ns, selector.name⟩))
      (Plan.perform (.readSecret ⟨ns, selector.name⟩)) fun r s =>
        KeysAlike b b' (Resolve.keyOfAnswer selector r.1) (Resolve.keyOfAnswer selector s.1)
          ∧ DifferAt site b b' related r.2 s.2 :=
    ⟨rfl, differ.keyOfAnswer ⟨ns, selector.name⟩ selector, differ⟩
  refine reading.bind fun x y w' v' h => ?_
  cases x <;> cases y <;> exact .done h

/-- Two signers, each in its state of the authority, give the same answers. -/
def SignAlike (a : Authority σ ω) (signer signer' : σ) (x y : ω) : Prop :=
  ∀ request, (a.sign signer' request y).1.1 = (a.sign signer request x).1.1

/-- Two keys open signers that give the same answers, or none for the same reason. -/
def OpenAlike (a : Authority σ ω) (key key' : Bytes) (x y : ω) : Prop :=
  match a.openSigner key x, a.openSigner key' y with
  | (.error chain, _), (.error chain', _) => chain' = chain
  | (.ok signer, x'), (.ok signer', y') => SignAlike a signer signer' x' y'
  | _, _ => False

/-- A call that is answered alike provides for the request alike. -/
theorem DifferAt.paired_sign {signer signer' : σ} (type : RequestType) (spec : RequestSpec)
    (differ : DifferAt site b b' (SignAlike a signer signer') w v) :
    Paired a w v (Provision.sign signer type spec) (Provision.sign signer' type spec)
      (Alike site b b' fun _ _ => True) := by
  unfold Provision.sign
  cases Provision.signRequest type spec with
  | error e => exact .done ⟨rfl, differ.forget⟩
  | ok request =>
    refine Paired.keyless_bind (Plan.keyless_note _) differ fun _ w' v' differ' => ?_
    have call : Paired a w' v' (Plan.perform (.sign signer request))
        (Plan.perform (.sign signer' request)) (Alike site b b' fun _ _ => True) :=
      ⟨rfl, differ'.authority request,
        ⟨differ'.store, differ'.secrets, differ'.faults, differ'.now, trivial⟩⟩
    exact call.alike_bind fun _ w₁ v₁ differ₁ => .done ⟨rfl, differ₁⟩

/-- With keys that open alike, signing runs alike. -/
theorem DifferAt.paired_signWith {key key' : Bytes} (r : CertificateRequest)
    (issuer : ResolvedIssuer) (differ : DifferAt site b b' (OpenAlike a key key') w v) :
    Paired a w v (RequestReconcile.signWith r issuer key) (RequestReconcile.signWith r issuer key')
      (Alike site b b' fun _ _ => True) := by
  have opening : Paired a w v (Plan.perform (.openSigner key)) (Plan.perform (.openSigner key'))
      fun r s => (∃ chain, r.1 = .error chain ∧ s.1 = .error chain
          ∧ DifferAt site b b' (fun _ _ => True) r.2 s.2)
        ∨ ∃ signer signer', r.1 = .ok signer ∧ s.1 = .ok signer'
          ∧ DifferAt site b b' (SignAlike a signer signer') r.2 s.2 := by
    refine ⟨rfl, ?_⟩
    have hrun : ∀ k (u : World ω), u.run a (Plan.perform (.openSigner k))
        = ((a.openSigner k u.authority).1,
          { u with authority := (a.openSigner k u.authority).2 }) := fun _ _ => rfl
    rw [hrun, hrun]
    have alike := differ.authority
    unfold OpenAlike at alike
    split at alike
    · next chain x chain' y hx hy =>
      rw [hx, hy]
      exact .inl ⟨chain, rfl, congrArg Except.error alike, differ.store, differ.secrets,
        differ.faults, differ.now, trivial⟩
    · next signer x signer' y hx hy =>
      rw [hx, hy]
      exact .inr ⟨signer, signer', rfl, rfl, differ.store, differ.secrets, differ.faults,
        differ.now, alike⟩
    · exact alike.elim
  refine opening.bind fun x y w' v' => ?_
  rintro (⟨chain, rfl, rfl, differ'⟩ | ⟨signer, signer', rfl, rfl, differ'⟩)
  · exact Paired.of_keyless ((Plan.keyless_note _).bind fun _ => trivial) differ'
  · refine (differ'.paired_sign issuer.spec.requestType r.spec).alike_bind
      fun answer w₁ v₁ differ₁ => ?_
    cases answer with
    | ok certificate => exact Paired.of_keyless (RequestReconcile.keyless_issue ..) differ₁
    | error e => exact Paired.of_keyless (RequestReconcile.keyless_rejected e) differ₁

/-- Measuring adds nothing that depends on the key. -/
theorem Paired.measured {p q : Plan σ (Except ReconcileError Unit)} (kind : String)
    (h : ∀ w' v', DifferAt site b b' related w' v' →
      Paired a w' v' p q (Alike site b b' fun _ _ => True))
    (differ : DifferAt site b b' related w v) :
    Paired a w v (RequestReconcile.measured kind p) (RequestReconcile.measured kind q)
      (Alike site b b' fun _ _ => True) := by
  refine Paired.keyless_bind (Plan.keyless_tally _) differ fun _ w₁ v₁ differ₁ => ?_
  refine (h w₁ v₁ differ₁).alike_bind fun result w₂ v₂ differ₂ => ?_
  refine Paired.of_keyless ((Plan.keyless_tally _).bind fun _ => ?_) differ₂
  cases result with
  | ok _ => trivial
  | error e => exact (Plan.keyless_tally _).bind fun _ => trivial

/-! ### Reconciles of requests -/

theorem openAlike_refl (a : Authority σ ω) (key : Bytes) (x : ω) : OpenAlike a key key x x := by
  unfold OpenAlike
  obtain ⟨_ | signer, x'⟩ := a.openSigner key x
  · rfl
  · exact fun _ => rfl

/-- The authority is in the same state, in which the two keys open alike. -/
def Opening (a : Authority σ ω) (b b' : Bytes) (x y : ω) : Prop := y = x ∧ OpenAlike a b b' x y

theorem Opening.openAlike {x y : ω} {key key' : Bytes} (h : Opening a b b' x y)
    (keys : KeysAlike b b' (.ok key) (.ok key')) : OpenAlike a key key' x y := by
  obtain ⟨rfl, alike⟩ := h
  rcases keys with hsame | ⟨hkey, hkey'⟩
  · cases hsame
    exact openAlike_refl a key y
  · cases hkey
    cases hkey'
    exact alike

theorem DifferAt.paired_signBy (differ : DifferAt site b b' (Opening a b b') w v)
    (settings : RequestReconcile.Settings) (r : CertificateRequest) (kind : IssuerKind)
    (ns : String) :
    Paired a w v (RequestReconcile.signBy settings r kind ns)
      (RequestReconcile.signBy settings r kind ns) (Alike site b b' fun _ _ => True) := by
  refine Paired.keyless_bind (Resolve.keyless_issuer ..) differ fun resolved w₁ v₁ differ₁ => ?_
  cases resolved with
  | error e =>
    exact Paired.of_keyless (RequestReconcile.keyless_awaitIssuer e) differ₁.forget
  | ok issuer =>
    refine (differ₁.paired_credential _ _).bind fun key key' w₂ v₂ => ?_
    rintro ⟨keys, differ₂⟩
    cases key with
    | error e =>
      obtain rfl : key' = .error e := keys.resolve_right fun h => nomatch h.1
      exact Paired.of_keyless (RequestReconcile.keyless_awaitCredential issuer e) differ₂.forget
    | ok key =>
      obtain ⟨key', rfl⟩ : ∃ k, key' = .ok k := by
        rcases keys with hsame | ⟨-, hkey'⟩
        · exact ⟨key, hsame⟩
        · exact ⟨b', hkey'⟩
      exact DifferAt.paired_signWith r issuer (differ₂.weaken fun _ _ h => h.openAlike keys)

theorem DifferAt.paired_carryOut (differ : DifferAt site b b' (Opening a b b') w v)
    (settings : RequestReconcile.Settings) (r : CertificateRequest)
    (verdict : RequestReconcile.Verdict) :
    Paired a w v (RequestReconcile.carryOut settings r verdict)
      (RequestReconcile.carryOut settings r verdict) (Alike site b b' fun _ _ => True) := by
  cases verdict with
  | leave event => exact .of_keyless ((Plan.keyless_note event).bind fun _ => trivial) differ.forget
  | deny => exact .of_keyless RequestReconcile.keyless_deny differ.forget
  | homeless => exact .of_keyless trivial differ.forget
  | unknownKind kind => exact .of_keyless (RequestReconcile.keyless_refuseKind kind) differ.forget
  | sign kind ns => exact differ.paired_signBy settings r kind ns

theorem DifferAt.paired_request (differ : DifferAt site b b' (Opening a b b') w v)
    (settings : RequestReconcile.Settings) (ns name : String) :
    Paired a w v (RequestReconcile.reconcile settings ns name)
      (RequestReconcile.reconcile settings ns name) (Alike site b b' fun _ _ => True) := by
  refine Paired.keyless_bind (Plan.keyless_perform rfl) differ fun read w₁ v₁ differ₁ => ?_
  cases read with
  | ok r =>
    exact Paired.measured _ (fun w' v' differ' => differ'.paired_carryOut settings r _) differ₁
  | error e =>
    refine Paired.of_keyless ?_ differ₁.forget
    dsimp only
    split
    · exact (Plan.keyless_note _).bind fun _ => trivial
    · trivial

/-! ### Reconciles of issuers -/

/-- An issuer is verified by a key that can be read, whichever it is. -/
theorem DifferAt.paired_verify (differ : DifferAt site b b' (fun _ _ => True) w v)
    (kind : IssuerKind) (i : Issuer) (ns : String) :
    Paired a w v (Readiness.verify kind i ns) (Readiness.verify kind i ns)
      (Alike site b b' fun _ _ => True) := by
  unfold Readiness.verify
  split
  · exact .of_keyless ((Plan.keyless_note _).bind fun _ => trivial) differ
  · refine Paired.keyless_bind (Plan.keyless_perform rfl) differ fun now w₁ v₁ differ₁ => ?_
    refine (differ₁.paired_credential _ _).bind fun key key' w₂ v₂ => ?_
    rintro ⟨rfl | ⟨rfl, rfl⟩, differ₂⟩
    · exact .of_keyless (Readiness.keyless_record ..) differ₂
    · change Paired a w₂ v₂ (Readiness.record kind i ns now (.ok b))
        (Readiness.record kind i ns now (.ok b)) _
      exact .of_keyless (Readiness.keyless_record ..) differ₂

theorem DifferAt.paired_issuer (differ : DifferAt site b b' (fun _ _ => True) w v)
    (clusterNs : String) (key : IssuerKey) :
    Paired a w v (Readiness.reconcile clusterNs key) (Readiness.reconcile clusterNs key)
      (Alike site b b' fun _ _ => True) := by
  refine Paired.keyless_bind (Plan.keyless_perform rfl) differ fun read w₁ v₁ differ₁ => ?_
  cases read with
  | ok i =>
    dsimp only
    unfold Readiness.reconcileObject
    split
    · exact .of_keyless trivial differ₁
    · exact Paired.measured _ (fun w' v' differ' => differ'.paired_verify _ i _) differ₁
  | error e =>
    refine Paired.of_keyless ?_ differ₁
    dsimp only
    split
    · exact (Plan.keyless_note _).bind fun _ => trivial
    · trivial

/-! ### Nobody else sees the key -/

/-- A plan has the same result in both worlds, asks the authority to sign the same and leaves the
same requests and issuers. -/
structure Indistinguishable (a : Authority σ ω) (w v : World ω) (p : Plan σ α) : Prop where
  result : (v.run a p).1 = (w.run a p).1
  asked : v.requestsOf a p = w.requestsOf a p
  requests : (v.run a p).2.store.requests = (w.run a p).2.store.requests
  issuers : (v.run a p).2.store.issuers = (w.run a p).2.store.issuers

theorem Paired.indistinguishable {p : Plan σ α} (h : Paired a w v p p (Alike site b b' related)) :
    Indistinguishable a w v p :=
  ⟨h.ends.1, h.requests, h.ends.2.requests_eq, h.ends.2.issuers_eq⟩

/-- Of two stores that differ in nothing but the bytes under one key of one secret, a reconcile of a
request has the same result, sends the same signing requests and leaves the same status, if both
keys open signers that give the same answers, or none for the same reason. A reconcile of an issuer
of either kind has the same result and leaves the same status, whatever the keys open. -/
theorem service_key_unseen (a : Authority σ ω) (differ : DifferAt site b b' (fun _ _ => True) w v) :
    (v.authority = w.authority → OpenAlike a b b' w.authority w.authority →
        ∀ settings ns name,
          Indistinguishable a w v (RequestReconcile.reconcile settings ns name))
      ∧ ∀ clusterNs key, Indistinguishable a w v (Readiness.reconcile clusterNs key) := by
  refine ⟨fun hsame alike settings ns name => ?_, fun clusterNs key => ?_⟩
  · have opening : DifferAt site b b' (Opening a b b') w v :=
      { differ with authority := ⟨hsame, hsame ▸ alike⟩ }
    exact (opening.paired_request settings ns name).indistinguishable
  · exact (differ.paired_issuer clusterNs key).indistinguishable

/-- The sample request with all that it takes to sign it, and another service key. -/
def rekeyed : List Change :=
  [.insertRequest (Sample.request [Sample.condition Condition.approved] [] none),
    .insertIssuer .origin Sample.issuer,
    .insertSecret (.single "default" "service-key" "key" [118, 50])]

theorem service_key_unseen_rekeyed :
    Indistinguishable Script.authority (sample signable) (sample rekeyed)
        (RequestReconcile.reconcile Sample.settings "default" "web")
      ∧ Indistinguishable Script.authority (sample signable) (sample rekeyed)
        (Readiness.reconcile "cluster" (.origin ⟨"default", "prod"⟩)) := by
  have differ : DifferAt ⟨⟨"default", "service-key"⟩, "key"⟩ [118, 49] [118, 50] (fun _ _ => True)
      (sample signable) (sample rekeyed) := by
    refine ⟨rfl, ⟨fun k hk => ?_, ?_⟩, rfl, rfl, trivial⟩
    · exact ((Table.get?_insert ..).trans (if_neg hk)).trans
        ((Table.get?_insert ..).trans (if_neg hk)).symm
    · refine ⟨Sample.secret, .single "default" "service-key" "key" [118, 50], by decide +kernel,
        by decide +kernel, rfl, rfl, fun n hn => ?_⟩
      simp [Secret.value?, Secret.single, Sample.secret, List.lookup_cons, beq_false_of_ne hn]
  have alike : OpenAlike Script.authority [118, 49] [118, 50] (sample signable).authority
      (sample signable).authority := fun _ => rfl
  obtain ⟨request, issuer⟩ := service_key_unseen Script.authority differ
  exact ⟨request rfl alike .., issuer ..⟩

end World
end CertIssuer

import CertIssuer.Proofs.Frame

/-!
Sources: all that a reconcile is told about issuers, service keys and signatures. No status write of
a request reaches them, so where the authority answers the same question in the same way every time,
reconciles of requests always find the sources they found before.
-/

namespace CertIssuer

variable {σ ω α : Type}

/-- The answers of the authority are functions of what it is asked. -/
structure Authority.Steady (a : Authority σ ω) : Prop where
  openSigner : ∀ serviceKey s s', (a.openSigner serviceKey s).1 = (a.openSigner serviceKey s').1
  sign : ∀ signer request s s', (a.sign signer request s).1.1 = (a.sign signer request s').1.1

/-- What there is to be told about issuers, service keys and signatures. -/
structure Sources (σ : Type) where
  issuer : IssuerKey → Except StoreError Issuer
  secret : ObjectKey → Except StoreError Secret
  opened : Bytes → Except (List String) σ
  signed : σ → SignRequest → Except SignError SignResponse

/-- An access is answered as the sources say, if it asks for one of them. -/
def Access.From (s : Sources σ) : Access σ → Prop
  | .readIssuer key answer => s.issuer key = answer
  | .readSecret key answer => s.secret key = answer
  | .openSigner serviceKey answer => s.opened serviceKey = answer
  | .sign signer request answer => s.signed signer request = answer
  | .readRequest _ _ | .writeRequest _ _ | .writeIssuer _ _ _ => True

/-- Only writes of issuers change what is stored besides the requests. -/
theorem Served.objects_eq {faults : List (StoreMethod × StoreError)} {s s' : MemoryStore}
    {access : Access σ} (h : Served faults s access s')
    (foreign : ∀ kind i written, access ≠ .writeIssuer kind i written) :
    s'.issuers = s.issuers ∧ s'.secrets = s.secrets := by
  cases h with
  | wroteRequest h =>
    obtain ⟨o, _, _, rfl⟩ := MemoryStore.writeRequest_eq_ok h
    exact ⟨rfl, rfl⟩
  | wroteIssuer h => exact absurd rfl (foreign _ _ _)
  | readRequest _ | missedRequest _ | unreadRequest _ | readIssuer | readSecret | unwrittenRequest
  | unwrittenIssuer | openSigner | sign => exact ⟨rfl, rfl⟩

/-- A reconcile of a request writes no issuer. -/
theorem RequestReconcile.not_mem_writeIssuer {l : List (Access σ)}
    {record : Option CertificateRequest} (h : Recording l record) (kind : IssuerKind) (i : Issuer)
    (written : Except StoreError Unit) : .writeIssuer kind i written ∉ l := by
  intro mem
  cases h with
  | nothing quiet => cases quiet _ mem
  | record quiet =>
    rcases List.mem_append.mp mem with hbefore | hlast
    · cases quiet _ hbefore
    · cases List.mem_singleton.mp hlast

namespace World

variable {a : Authority σ ω} {w v : World ω} {keys : List ObjectKey}

/-- What a world tells. -/
def sources (a : Authority σ ω) (w : World ω) : Sources σ where
  issuer := w.readIssuer
  secret := w.readSecret
  opened serviceKey := (a.openSigner serviceKey w.authority).1
  signed signer request := (a.sign signer request w.authority).1.1

/-- Worlds with the same issuers and secrets tell the same, whatever their authorities have been
asked before. -/
theorem sources_congr (steady : a.Steady) (issuers : v.store.issuers = w.store.issuers)
    (secrets : v.store.secrets = w.store.secrets) (faults : v.faults = w.faults) :
    v.sources a = w.sources a := by
  unfold sources
  congr 1
  · funext key
    rw [readIssuer, readIssuer, guarded, guarded, MemoryStore.readIssuer, MemoryStore.readIssuer,
      issuers, faults]
  · funext key
    rw [readSecret, readSecret, guarded, guarded, MemoryStore.readSecret, MemoryStore.readSecret,
      secrets, faults]
  · funext serviceKey
    exact steady.openSigner serviceKey _ _
  · funext signer request
    exact steady.sign signer request _ _

/-- A request is read as it is stored, if reads do not fail. -/
theorem readRequest_congr {key : ObjectKey}
    (stored : v.store.requests.get? key = w.store.requests.get? key)
    (faults : v.faults = w.faults) : v.readRequest key = w.readRequest key := by
  rw [readRequest, readRequest, guarded, guarded, MemoryStore.readRequest, MemoryStore.readRequest,
    faults, stored]

/-- Where a request was read, reads do not fail. -/
theorem readable_of_readRequest {key : ObjectKey} {r : CertificateRequest}
    (h : w.readRequest key = .ok r) : w.faults.lookup .readRequest = none := by
  cases hfault : w.faults.lookup .readRequest with
  | none => rfl
  | some e =>
    rw [readRequest, guarded, hfault] at h
    cases h

/-! ### Worlds side by side -/

/-- `v` is `w` but for the requests with these keys, what the authority has been asked, and the
log. -/
structure Beside (keys : List ObjectKey) (w v : World ω) : Prop where
  store : w.store.SameBut keys v.store
  faults : v.faults = w.faults
  now : v.now = w.now

theorem Beside.refl (keys : List ObjectKey) (w : World ω) : Beside keys w w :=
  ⟨.refl keys w.store, rfl, rfl⟩

theorem Beside.sources_eq (beside : Beside keys w v) (steady : a.Steady) :
    v.sources a = w.sources a :=
  sources_congr steady beside.store.issuers beside.store.secrets beside.faults

theorem Beside.accepting (beside : Beside keys w v) (accepting : w.Accepting) : v.Accepting :=
  ⟨beside.store.writable.trans accepting.writable, by rw [beside.faults]; exact accepting.faultless⟩

/-- A run changes neither which operations fail nor the time. -/
theorem surroundings_run (a : Authority σ ω) (p : Plan σ α) (w : World ω) :
    (w.run a p).2.faults = w.faults ∧ (w.run a p).2.now = w.now := by
  induction p generalizing w with
  | done _ => exact ⟨rfl, rfl⟩
  | ask op next ih =>
    obtain ⟨hfaults, hnow⟩ := surroundings_handle a op w
    rw [← hfaults, ← hnow]
    exact ih _ _

/-- A reconcile of a request leaves everything else as it is. -/
theorem beside_of_reconcile (a : Authority σ ω) (settings : RequestReconcile.Settings)
    (keyed : w.store.Keyed) (key : ObjectKey) :
    Beside [key] w (w.run a (RequestReconcile.reconcile settings key.ns key.name)).2 := by
  obtain ⟨hfaults, hnow⟩ :=
    surroundings_run a (RequestReconcile.reconcile settings key.ns key.name) w
  exact ⟨w.sameBut_of_reconcile a settings keyed key, hfaults, hnow⟩

/-! ### What a run is told -/

/-- Only writes of issuers reach what there is to be told. -/
theorem sources_handle (steady : a.Steady) (op : Op σ) (foreign : ∀ kind i written,
      .writeIssuer kind i written ∉ op.accesses ((handler a).handle op w).1) :
    ((handler a).handle op w).2.sources a = w.sources a := by
  have objects : ((handler a).handle op w).2.store.issuers = w.store.issuers
      ∧ ((handler a).handle op w).2.store.secrets = w.store.secrets := by
    rcases served_handle a op w with ⟨_, hstore⟩ | ⟨access, haccess, served⟩
    · rw [hstore]
      exact ⟨rfl, rfl⟩
    · refine served.objects_eq ?_
      rintro kind i written rfl
      exact foreign kind i written (haccess ▸ List.mem_singleton_self _)
  exact sources_congr steady objects.1 objects.2 (surroundings_handle a op w).1

/-- A run that writes no issuer is told what the sources say when it starts. -/
theorem from_run (steady : a.Steady) (p : Plan σ α)
    (foreign : ∀ kind i written, .writeIssuer kind i written ∉ p.accesses (handler a) w) :
    ∀ x ∈ p.accesses (handler a) w, x.From (w.sources a) := by
  induction p generalizing w with
  | done _ => simp [Plan.accesses]
  | ask op next ih =>
    have foreignNow := fun kind i written h => foreign kind i written (List.mem_append_left _ h)
    intro x hx
    rcases List.mem_append.mp hx with hnow | hlater
    · cases op with
      | readRequest _ | readIssuer _ | readSecret _ | openSigner _ | sign _ _ | writeRequest _
      | writeIssuer _ _ =>
        rw [List.mem_singleton.mp hnow]
        first | rfl | trivial
      | now | note _ | tally _ => cases hnow
    · rw [← sources_handle steady op foreignNow]
      refine ih _ (fun kind i written h => ?_) x hlater
      exact foreign kind i written (List.mem_append_right _ h)

end World

/-! ### A sample authority -/

namespace Sample

/-- An authority that gives every call this answer, and counts the calls. -/
def authority (answer : Except SignError SignResponse) : Authority Unit Nat where
  openSigner _ count := (.ok (), count)
  sign _ _ count := ((answer, []), count + 1)

theorem steady_authority (answer : Except SignError SignResponse) : (authority answer).Steady :=
  ⟨fun _ _ _ => rfl, fun _ _ _ _ => rfl⟩

/-- A world of the authority after these changes. -/
def world (changes : List Change) : World Nat := ⟨.afterChanges changes, [], 0, 0, []⟩

end Sample
end CertIssuer

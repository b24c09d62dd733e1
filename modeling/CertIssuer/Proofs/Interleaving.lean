import CertIssuer.Proofs.Records
import CertIssuer.Proofs.Serving

/-!
Interleavings: any number of reconciles in flight, each of which makes its operations one at a time,
while others insert, remove and write whatever they like in between.

The invariant is about what a reconcile in flight may still write. Before it has read its request
that is nothing in particular, and afterwards it is a record over the copy it has read. The store
accepts a record only over that very copy.
-/

namespace CertIssuer

variable {σ ω : Type}

/-- A reconcile of a request in flight: its settings, and what it has not done yet. -/
structure Flight (σ : Type) where
  settings : RequestReconcile.Settings
  rest : Plan σ (Except ReconcileError Unit)

/-- The write that a flight is about to make, if its next operation is one. -/
def Flight.writing? (f : Flight σ) : Option CertificateRequest :=
  match f.rest with
  | .ask (.writeRequest r) _ => some r
  | _ => none

theorem Flight.rest_of_writing {f : Flight σ} {r : CertificateRequest} (h : f.writing? = some r) :
    ∃ next, f.rest = .ask (.writeRequest r) next := by
  unfold writing? at h
  split at h
  · next hrest =>
    cases h
    exact ⟨_, hrest⟩
  · cases h

/-- A world with reconciles in flight. -/
structure Fleet (σ ω : Type) where
  world : World ω
  flights : List (Flight σ)
  /-- The requests that were stamped for an insertion and are not in yet. -/
  drafts : List CertificateRequest

/-- What can happen next. -/
inductive Move (ω : Type) where
  /-- A reconcile of the request with that name takes off. -/
  | start (settings : RequestReconcile.Settings) (ns name : String)
  /-- A reconcile in flight makes its next operation. -/
  | proceed (i : Nat)
  /-- Somebody else changes the store. -/
  | change (c : Change)
  /-- Somebody else stamps a request for an insertion. -/
  | draw (r : CertificateRequest)
  /-- Somebody else puts a stamped request in. -/
  | place (i : Nat)
  /-- Other operations fail from now on, time passes, and the authority changes. -/
  | surround (faults : List (StoreMethod × StoreError)) (now : Instant) (authority : ω)

namespace Fleet

/-! ### Runs -/

/-- The fleet with nothing stored and nothing in flight. -/
def initial (authority : ω) : Fleet σ ω := ⟨⟨.empty, [], 0, authority, []⟩, [], []⟩

/-- The fleet on another store. -/
def withStore (S : Fleet σ ω) (store : MemoryStore) : Fleet σ ω :=
  { S with world := { S.world with store } }

/-- The fleet after a flight made its next operation. -/
def advance (a : Authority σ ω) (S : Fleet σ ω) (i : Nat) (f : Flight σ) : Fleet σ ω :=
  match f.rest with
  | .done _ => S
  | .ask op next =>
    let answered := (World.handler a).handle op S.world
    { S with
      world := answered.2, flights := S.flights.set i { f with rest := next answered.1 } }

/-- The fleet after a move. -/
def step (a : Authority σ ω) (S : Fleet σ ω) : Move ω → Fleet σ ω
  | .start settings ns name =>
    { S with flights := S.flights ++ [⟨settings, RequestReconcile.reconcile settings ns name⟩] }
  | .proceed i =>
    match S.flights[i]? with
    | some f => S.advance a i f
    | none => S
  | .change c => S.withStore (S.world.store.apply c)
  | .draw r =>
    { S.withStore S.world.store.draw with
      drafts := S.drafts ++ [r.atVersion S.world.store.stamp] }
  | .place i =>
    match S.drafts[i]? with
    | some d => { S.withStore (S.world.store.place d) with drafts := S.drafts.eraseIdx i }
    | none => S
  | .surround faults now authority => { S with world := { S.world with faults, now, authority } }

/-- The fleet after moves. -/
def run (a : Authority σ ω) (S : Fleet σ ω) (moves : List (Move ω)) : Fleet σ ω :=
  moves.foldl (step a) S

/-- How many versions are stamped on the way. -/
def stamps (a : Authority σ ω) : Fleet σ ω → List (Move ω) → Nat
  | _, [] => 0
  | S, m :: moves =>
    (if (S.step a m).world.store.version = S.world.store.version then 0 else 1)
      + (S.step a m).stamps a moves

/-! ### The invariant -/

/-- A copy that was read at some time, and whose version is on no request on its way in. -/
structure Copy (S : Fleet σ ω) (r : CertificateRequest) : Prop where
  held : S.world.store.Held r
  apart : ∀ d ∈ S.drafts, d.metadata.resourceVersion ≠ r.metadata.resourceVersion

/-- What a flight may still write: before it has read its request nothing in particular, and then
only records over a copy. -/
def Grounded (S : Fleet σ ω) (f : Flight σ) : Prop :=
  (∃ ns name, f.rest = RequestReconcile.reconcile f.settings ns name)
    ∨ ∀ r', f.rest.MayWrite r' → ∃ r, S.Copy r ∧ RequestReconcile.Records f.settings r r'

/-- The invariant of a fleet. -/
structure Sound (S : Fleet σ ω) : Prop where
  kept : S.world.store.WellKept
  pending : ∀ d ∈ S.drafts, S.world.store.Pending d
  apart : S.drafts.Pairwise fun d d' => d.metadata.resourceVersion ≠ d'.metadata.resourceVersion
  grounded : ∀ f ∈ S.flights, S.Grounded f

variable {S S' : Fleet σ ω} {f : Flight σ} {r r' : CertificateRequest} {a : Authority σ ω}

theorem sound_initial (authority : ω) : (initial authority : Fleet σ ω).Sound where
  kept := MemoryStore.wellKept_empty
  pending _ hd := absurd hd List.not_mem_nil
  apart := .nil
  grounded _ hf := absurd hf List.not_mem_nil

theorem Grounded.mono (h : S.Grounded f) (copies : ∀ r, S.Copy r → S'.Copy r) : S'.Grounded f := by
  refine h.imp_right fun records r' hr' => ?_
  obtain ⟨r, copy, record⟩ := records r' hr'
  exact ⟨r, copies r copy, record⟩

/-- A copy of a stored request. -/
theorem Sound.copy {key : ObjectKey} (sound : S.Sound)
    (h : S.world.store.requests.get? key = some r) : S.Copy r :=
  ⟨sound.kept.held h, fun d hd => ((sound.pending d hd).unused key r h).symm⟩

theorem Copy.advance (copy : S.Copy r) (adv : S.world.store.Advances S'.world.store)
    (hdrafts : S'.drafts = S.drafts) : S'.Copy r :=
  ⟨copy.held.advance adv, fun d hd => copy.apart d (hdrafts ▸ hd)⟩

theorem Grounded.advance (h : S.Grounded f) (adv : S.world.store.Advances S'.world.store)
    (hdrafts : S'.drafts = S.drafts) : S'.Grounded f :=
  h.mono fun _ copy => copy.advance adv hdrafts

/-- The invariant is kept as long as the store advances and no draft comes or goes. -/
theorem Sound.advance (sound : S.Sound) (adv : S.world.store.Advances S'.world.store)
    (hdrafts : S'.drafts = S.drafts) (grounded : ∀ f ∈ S'.flights, S'.Grounded f) : S'.Sound := by
  refine ⟨sound.kept.advance adv, ?_, ?_, grounded⟩
  · rw [hdrafts]
    intro d hd
    exact (sound.pending d hd).advance adv
  · rw [hdrafts]
    exact sound.apart

/-! ### One operation of a flight -/

/-- After its read a reconcile may only write records over what it has read. -/
theorem records_after_read {settings : RequestReconcile.Settings} {ns name : String}
    {key : ObjectKey} {answer : Except StoreError CertificateRequest}
    {next : Except StoreError CertificateRequest → Plan σ (Except ReconcileError Unit)}
    (h : Plan.ask (.readRequest key) next = RequestReconcile.reconcile settings ns name)
    (hw : (next answer).MayWrite r') :
    ∃ r, answer = .ok r ∧ RequestReconcile.Records settings r r' := by
  obtain ⟨l, b, written, path, mem⟩ := hw
  have hpath : (RequestReconcile.reconcile settings ns name : Plan σ _).Path
      (.readRequest key answer :: l) b := by
    rw [← h]
    exact ⟨answer, l, rfl, path⟩
  rcases RequestReconcile.path_reconcile hpath with ⟨r, rest, hl, outcome⟩ | ⟨e, hl, _⟩
  · cases hl
    exact ⟨r, rfl, RequestReconcile.records_of_outcome outcome mem⟩
  · cases hl
    cases mem

/-- An operation keeps its flight grounded. -/
theorem Sound.grounded_next {op : Op σ} {next : op.Answer → Plan σ (Except ReconcileError Unit)}
    (sound : S.Sound) (hf : f ∈ S.flights) (hrest : f.rest = .ask op next)
    (copies : ∀ r, S.Copy r → S'.Copy r) :
    S'.Grounded { f with rest := next ((World.handler a).handle op S.world).1 } := by
  right
  intro r' hr'
  rcases sound.grounded f hf with ⟨ns, name, hread⟩ | records
  · -- the operation is the read, and what it brings is a copy
    rw [hrest] at hread
    have hop : op = .readRequest ⟨ns, name⟩ := (Plan.ask.inj hread).1
    subst hop
    obtain ⟨r, hanswer, record⟩ := records_after_read hread hr'
    have hserved : Served S.world.faults S.world.store
        (.readRequest ⟨ns, name⟩ (S.world.readRequest ⟨ns, name⟩) : Access σ) S.world.store :=
      S.world.served_readRequest ⟨ns, name⟩
    change S.world.readRequest ⟨ns, name⟩ = .ok r at hanswer
    rw [hanswer] at hserved
    cases hserved with
    | readRequest hget => exact ⟨r, copies r (sound.copy hget), record⟩
  · obtain ⟨r, copy, record⟩ := records r' (hrest ▸ hr'.of_next)
    exact ⟨r, copies r copy, record⟩

theorem Sound.advance_flight {i : Nat} (sound : S.Sound) (hf : S.flights[i]? = some f)
    (hv : S.world.store.version.toNat ≤ (S.advance a i f).world.store.version.toNat) :
    (S.advance a i f).Sound := by
  unfold Fleet.advance at hv ⊢
  split at hv
  · exact sound
  · next op next hrest =>
    have adv := (World.touched_handle a op S.world sound.kept.keyed).advances hv
    refine sound.advance adv rfl fun g hg => ?_
    rcases List.mem_or_eq_of_mem_set hg with hold | rfl
    · exact (sound.grounded g hold).advance adv rfl
    · exact sound.grounded_next (List.mem_of_getElem? hf) hrest
        fun r copy => copy.advance adv rfl

/-! ### One move -/

theorem Sound.draw (sound : S.Sound)
    (hv : S.world.store.version.toNat ≤ S.world.store.draw.version.toNat) :
    (S.step a (.draw r)).Sound := by
  have touched : S.world.store.Touched S.world.store.draw := .of_same rfl (.inr rfl)
  have adv := touched.advances hv
  have hstamp := MemoryStore.stampedWithin_draw r hv
  refine ⟨sound.kept.advance adv, ?_, ?_, fun f hf => (sound.grounded f hf).mono ?_⟩
  · intro d hd
    rcases List.mem_append.mp hd with hold | hnew
    · exact (sound.pending d hold).advance adv
    · rw [List.mem_singleton.mp hnew]
      exact sound.kept.pending_draw hv
  · refine List.pairwise_append.mpr ⟨sound.apart, List.pairwise_singleton _ _, ?_⟩
    intro d hd x hx
    rw [List.mem_singleton.mp hx]
    exact (hstamp.version_ne (sound.pending d hd).stamped).symm
  · intro x copy
    refine ⟨copy.held.advance adv, fun d hd => ?_⟩
    rcases List.mem_append.mp hd with hold | hnew
    · exact copy.apart d hold
    · rw [List.mem_singleton.mp hnew]
      exact hstamp.version_ne copy.held.stamped

/-- What is left of a list after an element was taken out is related to the element. -/
theorem related_of_mem_eraseIdx {α : Type} {R : α → α → Prop} {l : List α} {i : Nat} {x d : α}
    (apart : l.Pairwise R) (hd : l[i]? = some d) (hx : x ∈ l.eraseIdx i) : R d x ∨ R x d := by
  induction l generalizing i with
  | nil => cases hd
  | cons y l ih =>
    obtain ⟨hy, apart⟩ := List.pairwise_cons.mp apart
    cases i with
    | zero =>
      cases hd
      exact .inl (hy x hx)
    | succ i =>
      rcases List.mem_cons.mp hx with rfl | hx
      · exact .inr (hy d (List.mem_of_getElem? hd))
      · exact ih apart hd hx

theorem Sound.place {i : Nat} {d : CertificateRequest} (sound : S.Sound)
    (hd : S.drafts[i]? = some d) :
    ({ S.withStore (S.world.store.place d) with drafts := S.drafts.eraseIdx i } :
      Fleet σ ω).Sound := by
  have hmem : d ∈ S.drafts := List.mem_of_getElem? hd
  have hsub : ∀ x ∈ S.drafts.eraseIdx i, x ∈ S.drafts := fun x hx =>
    (List.eraseIdx_sublist S.drafts i).subset hx
  refine ⟨sound.kept.place (sound.pending d hmem), ?_,
    sound.apart.sublist (List.eraseIdx_sublist S.drafts i),
    fun f hf => (sound.grounded f hf).mono ?_⟩
  · intro x hx
    refine (sound.pending x (hsub x hx)).place ?_
    rcases related_of_mem_eraseIdx sound.apart hd hx with hne | hne
    · exact hne
    · exact hne.symm
  · intro r copy
    exact ⟨copy.held.place (copy.apart d hmem), fun x hx => copy.apart x (hsub x hx)⟩

/-- Every move keeps the invariant, unless it starts the counter over. -/
theorem Sound.step (sound : S.Sound) (m : Move ω)
    (hv : S.world.store.version.toNat ≤ (S.step a m).world.store.version.toNat) :
    (S.step a m).Sound := by
  cases m with
  | start settings ns name =>
    refine sound.advance (.refl S.world.store) rfl fun f hf => ?_
    rcases List.mem_append.mp hf with hold | hnew
    · exact (sound.grounded f hold).advance (.refl S.world.store) rfl
    · rw [List.mem_singleton.mp hnew]
      exact .inl ⟨ns, name, rfl⟩
  | proceed i =>
    simp only [Fleet.step] at hv ⊢
    cases hf : S.flights[i]? with
    | none => exact sound
    | some f =>
      rw [hf] at hv
      exact sound.advance_flight hf hv
  | change c =>
    have touched := MemoryStore.Touched.of_apply sound.kept.keyed c
    have adv : S.world.store.Advances (S.world.store.apply c) := touched.advances hv
    exact sound.advance adv rfl fun f hf => (sound.grounded f hf).advance adv rfl
  | draw r => exact sound.draw hv
  | place i =>
    simp only [Fleet.step]
    cases hd : S.drafts[i]? with
    | none => exact sound
    | some d => exact sound.place hd
  | surround faults now authority =>
    have adv := MemoryStore.Advances.refl S.world.store
    exact sound.advance adv rfl fun f hf => (sound.grounded f hf).advance adv rfl

/-! ### Runs keep the invariant -/

/-- A move stamps one version, or none. -/
theorem Sound.version_step (sound : S.Sound) (m : Move ω) :
    (S.step a m).world.store.version = S.world.store.version
      ∨ (S.step a m).world.store.version = S.world.store.nextVersion := by
  cases m with
  | start settings ns name => exact .inl rfl
  | surround faults now authority => exact .inl rfl
  | change c => exact (MemoryStore.Touched.of_apply sound.kept.keyed c).version
  | draw r => exact .inr rfl
  | place i =>
    simp only [Fleet.step]
    split <;> exact .inl rfl
  | proceed i =>
    simp only [Fleet.step]
    split
    · unfold Fleet.advance
      split
      · exact .inl rfl
      · next op next _ => exact (World.touched_handle a op S.world sound.kept.keyed).version
    · exact .inl rfl

/-- As long as fewer than 2^64 versions are stamped, the counter only goes up. -/
theorem Sound.version_le_step {m : Move ω} {moves : List (Move ω)} (sound : S.Sound)
    (h : S.world.store.version.toNat + S.stamps a (m :: moves) < UInt64.size) :
    S.world.store.version.toNat ≤ (S.step a m).world.store.version.toNat
      ∧ (S.step a m).world.store.version.toNat + (S.step a m).stamps a moves < UInt64.size := by
  unfold stamps at h
  exact MemoryStore.version_le_of_stamps (sound.version_step m) h

/-- Every run keeps the invariant, as long as it stamps fewer than 2^64 versions. -/
theorem Sound.run {moves : List (Move ω)} (sound : S.Sound)
    (h : S.world.store.version.toNat + S.stamps a moves < UInt64.size) : (S.run a moves).Sound := by
  induction moves generalizing S with
  | nil => exact sound
  | cons m moves ih =>
    obtain ⟨hv, hrest⟩ := sound.version_le_step h
    exact ih (sound.step m hv) hrest

/-- Whatever happens to a fleet that starts out empty, the invariant holds. -/
theorem sound_run {authority : ω} {moves : List (Move ω)}
    (h : (initial authority : Fleet σ ω).stamps a moves < UInt64.size) :
    ((initial authority : Fleet σ ω).run a moves).Sound := by
  refine (sound_initial authority).run ?_
  rw [show (initial authority : Fleet σ ω).world.store.version.toNat = 0 from rfl, Nat.zero_add]
  exact h

/-! ### Accepted writes -/

/-- A write that a flight makes and the store accepts is a record over what is stored. -/
theorem Sound.record_of_accepted {store : MemoryStore} (sound : S.Sound) (hf : f ∈ S.flights)
    (hwriting : f.writing? = some r')
    (hwrite : S.world.store.writeRequest r' = .ok store) :
    ∃ r, S.world.store.requests.get? r'.key = some r
      ∧ RequestReconcile.Records f.settings r r'
      ∧ store.requests = S.world.store.requests.insert r'.key
        ({ r with status := r'.status }.atVersion S.world.store.stamp) := by
  obtain ⟨next, hrest⟩ := Flight.rest_of_writing hwriting
  rcases sound.grounded f hf with ⟨ns, name, hread⟩ | records
  · rw [hrest] at hread
    cases (Plan.ask.inj hread).1
  · obtain ⟨r, copy, record⟩ := records r' (hrest ▸ Plan.mayWrite_of_ask)
    obtain ⟨hget, hstore⟩ := copy.held.stored_of_write record.metadata_eq hwrite
    exact ⟨r, hget, record, hstore⟩

/-- An operation of a flight leaves all requests alone, or records something over one of them. -/
theorem Sound.proceed {i : Nat} (sound : S.Sound) :
    (S.step a (.proceed i)).world.store.requests = S.world.store.requests
      ∨ ∃ settings r r', S.world.store.requests.get? r'.key = some r
        ∧ RequestReconcile.Records settings r r'
        ∧ (S.step a (.proceed i)).world.store.requests = S.world.store.requests.insert r'.key
          ({ r with status := r'.status }.atVersion S.world.store.stamp) := by
  simp only [Fleet.step]
  cases hf : S.flights[i]? with
  | none => exact .inl rfl
  | some f =>
    simp only [Fleet.advance]
    split
    · exact .inl rfl
    · next op next hrest =>
      rcases World.served_handle a op S.world with ⟨_, hstore⟩ | ⟨access, haccess, served⟩
      · exact .inl (congrArg MemoryStore.requests hstore)
      · rcases served.requests with hsame | ⟨r', rfl, hwrite⟩
        · exact .inl hsame
        · cases op with
          | writeRequest r =>
            obtain ⟨rfl, _⟩ := Access.writeRequest.inj (List.head_eq_of_cons_eq haccess)
            have hwriting : f.writing? = some r := by rw [Flight.writing?, hrest]
            obtain ⟨r₀, hget, record, hstore⟩ :=
              sound.record_of_accepted (List.mem_of_getElem? hf) hwriting hwrite
            exact .inr ⟨f.settings, r₀, _, hget, record, hstore⟩
          | readRequest _ | readIssuer _ | readSecret _ | writeIssuer _ _ | now | openSigner _
          | sign _ _ | note _ | tally _ => cases haccess

end Fleet
end CertIssuer

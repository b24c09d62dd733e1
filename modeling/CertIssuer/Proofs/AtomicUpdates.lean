import CertIssuer.Proofs.LostUpdates

/-!
A status update is made as a whole or not at all. It takes several steps: the store has to accept
updates, the object has to be there and must not have changed since it was read, and only then its
status is replaced, the next version is drawn and stamped on it, and the write is counted.
`runStages` makes them one after the other, where a failure keeps whatever was done before it.

The main statement is that a failure comes before anything was done, and that an accepted update
changes the object at its place and the two counters only, at a version that no request and no
issuer of the run has ever carried. Secrets are put in as they are and are not stamped, so a secret
may carry that version.
-/

namespace CertIssuer

namespace Versioned

/-- The metadata of an object. -/
def metadata : Versioned → Metadata
  | .request r => r.metadata
  | .issuer _ i => i.metadata

/-- The name of the resource that an object is one of. -/
def resource : Versioned → String
  | .request _ => CertificateRequest.resource
  | .issuer kind _ => kind.resource

/-- The stored object with the status of a copy of it. -/
def takingStatus : Versioned → Versioned → Versioned
  | .request o, .request r => .request { o with status := r.status }
  | .issuer kind o, .issuer _ i => .issuer kind { o with status := i.status }
  | o, _ => o

end Versioned

namespace MemoryStore

variable {s s' : MemoryStore} {t : Target} {u o : Versioned} {e : StoreError}

/-- Writes the status of an object. -/
def writeStatus (s : MemoryStore) : Versioned → Except StoreError MemoryStore
  | .request r => s.writeRequest r
  | .issuer kind i => s.writeIssuer kind i

/-- Puts an object at a place. -/
def put (s : MemoryStore) : Target → Versioned → MemoryStore
  | .request key, .request r => { s with requests := s.requests.insert key r }
  | .issuer key, .issuer _ i => { s with issuers := s.issuers.insert key i }
  | _, _ => s

/-! ### One stage after the other -/

/-- A stage of an operation: it may refuse to go on, or it changes the store. -/
inductive Stage where
  | check (refusal? : MemoryStore → Option StoreError)
  | change (f : MemoryStore → MemoryStore)

/-- Runs stages, one after the other. A refusal keeps what was done before it. -/
def runStages : List Stage → MemoryStore → Except StoreError Unit × MemoryStore
  | [], s => (.ok (), s)
  | .check refusal? :: rest, s =>
    match refusal? s with
    | some e => (.error e, s)
    | none => runStages rest s
  | .change f :: rest, s => runStages rest (f s)

/-- Whether status writes are disabled. -/
def disabled? (s : MemoryStore) : Option StoreError :=
  if s.writable then none else some (.unavailable "status writes are disabled")

/-- Whether there is no object for an update. -/
def absent? (u : Versioned) (s : MemoryStore) : Option StoreError :=
  match s.object? u.target with
  | some _ => none
  | none => some (.notFound u.resource u.metadata.anyName)

/-- Whether the object of an update has changed since it was read. -/
def outdated? (u : Versioned) (s : MemoryStore) : Option StoreError :=
  match s.object? u.target with
  | some o =>
    if isOutdated o.metadata u.metadata then some (.conflict u.resource u.metadata.anyName)
    else none
  | none => none

/-- Replaces the status of the object of an update. -/
def takeStatus (u : Versioned) (s : MemoryStore) : MemoryStore :=
  match s.object? u.target with
  | some o => s.put u.target (o.takingStatus u)
  | none => s

/-- Draws the next version and stamps it on the object at a place. -/
def stampAt (t : Target) (s : MemoryStore) : MemoryStore :=
  match s.object? t with
  | some o => s.draw.put t (o.atVersion s.stamp)
  | none => s

/-- Counts a write. -/
def count (s : MemoryStore) : MemoryStore := { s with writes := s.writes + 1 }

/-- The stages of a status update. -/
def stages (u : Versioned) : List Stage :=
  [.check disabled?, .check (absent? u), .check (outdated? u),
    .change (takeStatus u), .change (stampAt u.target), .change count]

/-- The store with the update of a stored object. -/
def updated (s : MemoryStore) (u o : Versioned) : MemoryStore :=
  (s.draw.put u.target ((o.takingStatus u).atVersion s.stamp)).count

theorem map_replaceStatus {σ τ β : Type} {resource name version : String} {o copy : Object σ τ}
    (store : Object σ τ → β) :
    (replaceStatus resource name version (some o) copy).map store =
      if isOutdated o.metadata copy.metadata then .error (.conflict resource name)
      else .ok (store ({ o with status := copy.status }.atVersion version)) := by
  rw [replaceStatus]
  split <;> rfl

/-- An update is taken over if updates are accepted, its object is there, and the object has not
changed since it was read. -/
theorem writeStatus_eq (s : MemoryStore) (u : Versioned) :
    s.writeStatus u =
      if s.writable then
        match s.object? u.target with
        | none => .error (.notFound u.resource u.metadata.anyName)
        | some o =>
          if isOutdated o.metadata u.metadata then
            .error (.conflict u.resource u.metadata.anyName)
          else .ok (s.updated u o)
      else .error (.unavailable "status writes are disabled") := by
  cases u with
  | request r =>
    simp only [writeStatus, writeRequest, Versioned.target, object?]
    congr 1
    cases s.requests.get? r.key with
    | none => rfl
    | some o => exact map_replaceStatus _
  | issuer kind i =>
    simp only [writeStatus, writeIssuer, Versioned.target, object?]
    congr 1
    cases s.issuers.get? (.ofIssuer kind i) with
    | none => rfl
    | some o => exact map_replaceStatus _

/-! ### Objects at places -/

/-- An object is of the type that a place is for. -/
def Fits : Target → Versioned → Prop
  | .request _, .request _ => True
  | .issuer key, .issuer kind _ => key.kind = kind
  | _, _ => False

theorem fits_of_object? (h : s.object? t = some o) : Fits t o := by
  cases t with
  | request key =>
    obtain ⟨r, _, rfl⟩ := Option.map_eq_some_iff.mp h
    trivial
  | issuer key =>
    obtain ⟨i, _, rfl⟩ := Option.map_eq_some_iff.mp h
    rfl

theorem Fits.takingStatus (h : Fits t o) (u : Versioned) : Fits t (o.takingStatus u) := by
  cases t <;> cases o <;> cases u <;> exact h

theorem Fits.atVersion (h : Fits t o) (v : String) : Fits t (o.atVersion v) := by
  cases t <;> cases o <;> exact h

/-- An object that was put at a place is there, and every other place is as before. -/
theorem object?_put {t' : Target} (s : MemoryStore) (h : Fits t o) :
    (s.put t o).object? t' = if t' = t then some o else s.object? t' := by
  cases t with
  | request key =>
    cases o with
    | request r =>
      cases t' with
      | request other =>
        simp only [put, object?, Table.get?_insert, Target.request.injEq]
        split <;> rfl
      | issuer other => simp [put, object?]
    | issuer _ _ => exact h.elim
  | issuer key =>
    cases o with
    | request _ => exact h.elim
    | issuer kind i =>
      cases t' with
      | request other => simp [put, object?]
      | issuer other =>
        simp only [put, object?, Table.get?_insert, Target.issuer.injEq]
        split
        · next hkey =>
          rw [hkey, show key.kind = kind from h]
          rfl
        · rfl

theorem stamp_put (s : MemoryStore) (t : Target) (o : Versioned) :
    (s.put t o).stamp = s.stamp := by
  cases t <;> cases o <;> rfl

/-- What is put at a place last stays. -/
theorem put_put (s : MemoryStore) (t : Target) (o : Versioned) (v : String) :
    (s.put t o).draw.put t (o.atVersion v) = s.draw.put t (o.atVersion v) := by
  cases t <;> cases o <;> simp [put, draw, nextVersion, Versioned.atVersion, Table.insert_insert]

/-- The stages of an update come to the update as a whole: a refusal comes before every change. -/
theorem runStages_stages (s : MemoryStore) (u : Versioned) :
    runStages (stages u) s =
      match s.writeStatus u with
      | .ok s' => (.ok (), s')
      | .error e => (.error e, s) := by
  rw [writeStatus_eq]
  by_cases on : s.writable = true
  case neg => simp [stages, runStages, disabled?, on]
  cases stored : s.object? u.target with
  | none => simp [stages, runStages, disabled?, absent?, on, stored]
  | some o =>
    by_cases stale : isOutdated o.metadata u.metadata = true
    · simp [stages, runStages, disabled?, absent?, outdated?, on, stored, stale]
    · have hput : (s.put u.target (o.takingStatus u)).object? u.target
          = some (o.takingStatus u) := by
        rw [object?_put s ((fits_of_object? stored).takingStatus u), if_pos rfl]
      have hchanges : (stampAt u.target (takeStatus u s)).count = s.updated u o := by
        simp only [takeStatus, stored, stampAt, hput, stamp_put, put_put, updated]
      simp [stages, runStages, disabled?, absent?, outdated?, on, stored, stale, hchanges]

/-! ### What an update does -/

/-- Why an update is refused. -/
inductive Refuses (s : MemoryStore) (u : Versioned) : StoreError → Prop
  | disabled (off : s.writable = false) : Refuses s u (.unavailable "status writes are disabled")
  | absent (on : s.writable = true) (none : s.object? u.target = none) :
      Refuses s u (.notFound u.resource u.metadata.anyName)
  /-- The copy carries a version which is not that of the object. -/
  | outdated (on : s.writable = true) (o : Versioned) (v : String)
      (stored : s.object? u.target = some o) (based : u.version? = some v)
      (changed : o.version? ≠ some v) : Refuses s u (.conflict u.resource u.metadata.anyName)

/-- The object of an update has its status and the next version, the two counters are one higher,
and nothing else is different. -/
structure Updates (s s' : MemoryStore) (u : Versioned) : Prop where
  object : ∃ o, s.object? u.target = some o
    ∧ s'.object? u.target = some ((o.takingStatus u).atVersion s.stamp)
  others : ∀ t, t ≠ u.target → s'.object? t = s.object? t
  secrets : s'.secrets = s.secrets
  writable : s'.writable = s.writable
  version : s'.version = s.nextVersion
  writes : s'.writes = s.writes + 1

theorem version?_eq (u : Versioned) : u.version? = u.metadata.resourceVersion := by
  cases u <;> rfl

theorem exists_of_isOutdated (h : isOutdated o.metadata u.metadata = true) :
    ∃ v, u.version? = some v ∧ o.version? ≠ some v := by
  rw [version?_eq, version?_eq]
  unfold isOutdated at h
  split at h
  · next v hv => exact ⟨v, hv, by simpa using h⟩
  · cases h

theorem refuses_of_writeStatus (h : s.writeStatus u = .error e) : s.Refuses u e := by
  rw [writeStatus_eq] at h
  by_cases on : s.writable = true
  case neg =>
    rw [if_neg on] at h
    cases h
    exact .disabled (by simpa using on)
  rw [if_pos on] at h
  cases stored : s.object? u.target with
  | none =>
    rw [stored] at h
    cases h
    exact .absent on stored
  | some o =>
    simp only [stored] at h
    split at h
    · next stale =>
      cases h
      obtain ⟨v, based, changed⟩ := exists_of_isOutdated stale
      exact .outdated on o v stored based changed
    · cases h

theorem updates_updated (stored : s.object? u.target = some o) :
    s.Updates (s.updated u o) u := by
  have hobject : ∀ t, (s.updated u o).object? t
      = if t = u.target then some ((o.takingStatus u).atVersion s.stamp) else s.object? t :=
    fun t => object?_put s.draw (((fits_of_object? stored).takingStatus u).atVersion s.stamp)
  refine ⟨⟨o, stored, ?_⟩, fun t ht => ?_, ?_, ?_, ?_, ?_⟩
  · rw [hobject, if_pos rfl]
  · rw [hobject, if_neg ht]
  all_goals
    unfold updated
    generalize u.target = t, (o.takingStatus u).atVersion s.stamp = x
    cases t <;> cases x <;> rfl

theorem updates_of_writeStatus (h : s.writeStatus u = .ok s') : s.Updates s' u := by
  rw [writeStatus_eq] at h
  split at h
  case isFalse => cases h
  split at h
  · cases h
  · next o stored =>
    split at h
    · cases h
    · cases h
      exact updates_updated stored

theorem apply_update (s : MemoryStore) (u : Versioned) :
    s.apply u.update = (s.writeStatus u).toOption.getD s := by
  cases u <;> rfl

/-- An update is made, or it is refused and changes nothing. -/
theorem update_cases (s : MemoryStore) (u : Versioned) :
    ((s.writeStatus u).isOk = true ∧ s.Updates (s.apply u.update) u)
      ∨ ((s.writeStatus u).isOk = false ∧ s.apply u.update = s) := by
  rw [apply_update]
  cases hw : s.writeStatus u with
  | ok s' => exact .inl ⟨rfl, updates_of_writeStatus hw⟩
  | error e => exact .inr ⟨rfl, rfl⟩

theorem nextVersion_ne (s : MemoryStore) : s.nextVersion ≠ s.version := by simp [nextVersion]

theorem toNat_nextVersion (h : s.version.toNat ≤ s.nextVersion.toNat) :
    s.nextVersion.toNat = s.version.toNat + 1 := by
  have hlt := lt_nextVersion h
  have hadd := UInt64.toNat_add s.version 1
  have hone : (1 : UInt64).toNat = 1 := rfl
  rw [← nextVersion] at hadd
  omega

end MemoryStore

/-! ### Runs -/

namespace SharedStore

variable {S : SharedStore} {t : Target} {o u : Versioned} {v : String} {steps : List Step}

/-- At some time of a run a request or an issuer of this version was stored. -/
def Carried (steps : List Step) (v : String) : Prop :=
  ∃ past rest t o, steps = past ++ rest ∧ (initial.run past).store.object? t = some o
    ∧ o.version? = some v

/-- Whether a step is a status update that is accepted. -/
def accepts (S : SharedStore) : Step → Bool
  | .change (.writeRequest r) => (S.store.writeRequest r).isOk
  | .change (.writeIssuer kind i) => (S.store.writeIssuer kind i).isOk
  | _ => false

/-- How many status updates are accepted on the way. -/
def acceptances : SharedStore → List Step → Nat
  | _, [] => 0
  | S, m :: steps => (S.accepts m).toNat + (S.step m).acceptances steps

/-- A step that is accepted makes an update, and any other step counts no write. -/
theorem accepts_cases (S : SharedStore) (m : Step) :
    (S.accepts m = true ∧ ∃ u, S.store.Updates (S.step m).store u)
      ∨ (S.accepts m = false ∧ (S.step m).store.writes = S.store.writes) := by
  cases m with
  | read _ | draw _ => exact .inr ⟨rfl, rfl⟩
  | place i =>
    refine .inr ⟨rfl, ?_⟩
    simp only [step]
    split
    · next d _ => cases d <;> rfl
    · rfl
  | change c =>
    cases c with
    | writeRequest r =>
      rcases S.store.update_cases (.request r) with ⟨hok, updates⟩ | ⟨hrefused, hsame⟩
      · exact .inl ⟨hok, _, updates⟩
      · exact .inr ⟨hrefused, congrArg MemoryStore.writes hsame⟩
    | writeIssuer kind i =>
      rcases S.store.update_cases (.issuer kind i) with ⟨hok, updates⟩ | ⟨hrefused, hsame⟩
      · exact .inl ⟨hok, _, updates⟩
      · exact .inr ⟨hrefused, congrArg MemoryStore.writes hsame⟩
    | insertRequest _ | removeRequest _ | insertIssuer _ _ | insertSecret _ | allowWrites _ =>
      exact .inr ⟨rfl, rfl⟩

/-- A step counts one write if it is an accepted update, and none otherwise. -/
theorem writes_step (S : SharedStore) (m : Step) :
    (S.step m).store.writes = S.store.writes + (S.accepts m).toNat := by
  rcases S.accepts_cases m with ⟨haccepts, _, updates⟩ | ⟨haccepts, hwrites⟩
  · rw [haccepts, updates.writes, Bool.toNat_true]
  · rw [haccepts, hwrites, Bool.toNat_false, Nat.add_zero]

/-- Over a run the counter of writes goes up by the number of accepted updates. -/
theorem writes_run (S : SharedStore) (steps : List Step) :
    (S.run steps).store.writes = S.store.writes + S.acceptances steps := by
  induction steps generalizing S with
  | nil => rfl
  | cons m steps ih =>
    have hrest := ih (S.step m)
    rw [writes_step, Nat.add_assoc] at hrest
    exact hrest

/-- No more updates are accepted than versions are stamped. -/
theorem acceptances_le_stamps (S : SharedStore) (steps : List Step) :
    S.acceptances steps ≤ S.stamps steps := by
  induction steps generalizing S with
  | nil => exact Nat.le_refl 0
  | cons m steps ih =>
    refine Nat.add_le_add ?_ (ih (S.step m))
    rcases S.accepts_cases m with ⟨haccepts, _, updates⟩ | ⟨haccepts, _⟩
    · rw [haccepts, updates.version, if_neg S.store.nextVersion_ne]
      exact Nat.le_refl 1
    · rw [haccepts]
      exact Nat.zero_le _

/-- A version that was stamped stays so. -/
theorem Stamped.run (h : S.Stamped v)
    (few : S.store.version.toNat + S.stamps steps < UInt64.size) : (S.run steps).Stamped v := by
  induction steps generalizing S with
  | nil => exact h
  | cons m steps ih =>
    obtain ⟨hle, hrest⟩ := version_le_step few
    exact ih (h.mono hle) hrest

/-- Whatever version an object of a run has carried, it was stamped in the run. -/
theorem stamped_of_carried (few : initial.stamps steps < UInt64.size) (h : Carried steps v) :
    (initial.run steps).Stamped v := by
  obtain ⟨past, rest, t, o, rfl, stored, hv⟩ := h
  have hbound : initial.store.version.toNat + initial.stamps (past ++ rest) < UInt64.size := by
    rw [show initial.store.version.toNat = 0 from rfl, Nat.zero_add]
    exact few
  have hpast : initial.store.version.toNat + initial.stamps past < UInt64.size := by
    rw [stamps_append] at hbound
    omega
  obtain ⟨w, hw, known⟩ := (sound_initial.run hpast).stored t o stored
  obtain rfl : v = w := Option.some.inj (hv.symm.trans hw)
  have hrun : initial.run (past ++ rest) = (initial.run past).run rest := List.foldl_append
  rw [hrun]
  exact known.stamped.run (version_le_run hbound)

/-- A status update of the store after a run is made as a whole or not at all, stage by stage as
well. If it is refused the store is as it was. If it is accepted its object has the new status and
the next version, which no request and no issuer of the run has ever carried, the two counters are
one higher, and nothing else is different. So the store has counted the accepted updates of the run,
and with this one they are still fewer than 2^64.

Fewer than 2^64 versions are stamped. -/
theorem update_all_or_nothing (before : List Step) (u : Versioned)
    (few : initial.stamps (before ++ [.change u.update]) < UInt64.size) :
    let s := (initial.run before).store
    (∀ e, s.writeStatus u = .error e →
        s.Refuses u e ∧ MemoryStore.runStages (MemoryStore.stages u) s = (.error e, s))
      ∧ (∀ s', s.writeStatus u = .ok s' →
        s.Updates s' u ∧ MemoryStore.runStages (MemoryStore.stages u) s = (.ok (), s')
          ∧ s'.version.toNat = s.version.toNat + 1 ∧ ¬ Carried before s.stamp)
      ∧ s.writes = initial.acceptances before
      ∧ initial.acceptances (before ++ [.change u.update]) < UInt64.size := by
  intro s
  have hbound : initial.store.version.toNat + initial.stamps (before ++ [.change u.update])
      < UInt64.size := by
    rw [show initial.store.version.toNat = 0 from rfl, Nat.zero_add]
    exact few
  have hbefore : initial.stamps before < UInt64.size := by
    rw [stamps_append] at few
    omega
  refine ⟨fun e h => ⟨MemoryStore.refuses_of_writeStatus h, ?_⟩, fun s' h => ?_, ?_,
    Nat.lt_of_le_of_lt (acceptances_le_stamps _ _) few⟩
  · rw [MemoryStore.runStages_stages, h]
  · have updates := MemoryStore.updates_of_writeStatus h
    have hstep : ((initial.run before).step (.change u.update)).store = s' := by
      rw [step, MemoryStore.apply_update, h]
      rfl
    have hle := (version_le_step (version_le_run hbound)).1
    rw [hstep, updates.version] at hle
    refine ⟨updates, ?_, ?_, fun carried => ?_⟩
    · rw [MemoryStore.runStages_stages, h]
    · rw [updates.version]
      exact MemoryStore.toNat_nextVersion hle
    · exact (stamped_of_carried hbefore carried).stamp_ne hle rfl
  · rw [writes_run]
    exact Nat.zero_add _

/-- The sample request is put in and updated once. The same copy is then refused, and a copy of the
updated request is taken over. -/
theorem update_all_or_nothing_repeated :
    let r := Sample.request [] [] none
    let before : List Step :=
      [.change (.insertRequest r), .change (.writeRequest (r.atVersion "1"))]
    let s := (initial.run before).store
    MemoryStore.runStages (MemoryStore.stages (.request (r.atVersion "1"))) s
        = (.error (.conflict CertificateRequest.resource "web"), s)
      ∧ (∃ s', s.writeStatus (.request (r.atVersion "2")) = .ok s'
        ∧ s.Updates s' (.request (r.atVersion "2")) ∧ ¬ Carried before "3")
      ∧ s.writes = 1 := by
  intro r before s
  have stored : s.requests.get? Sample.key = some (r.atVersion "2") := by decide +kernel
  have hwrite (v : String) := s.writeStatus_eq (.request (r.atVersion v))
  simp only [show ∀ v, s.object? (Versioned.request (r.atVersion v)).target = _ from
    fun _ => congrArg (Option.map Versioned.request) stored] at hwrite
  have refused : s.writeStatus (.request (r.atVersion "1"))
      = .error (.conflict CertificateRequest.resource "web") := hwrite "1"
  obtain ⟨s', accepted⟩ : ∃ s', s.writeStatus (.request (r.atVersion "2")) = .ok s' :=
    ⟨_, hwrite "2"⟩
  obtain ⟨refusal, _, counted, _⟩ :=
    update_all_or_nothing before (.request (r.atVersion "1")) (by decide +kernel)
  obtain ⟨_, update, _⟩ :=
    update_all_or_nothing before (.request (r.atVersion "2")) (by decide +kernel)
  obtain ⟨updates, _, _, unused⟩ := update s' accepted
  have third : s.stamp = "3" := by decide +kernel
  exact ⟨(refusal _ refused).2, ⟨s', accepted, updates, third ▸ unused⟩, counted⟩

/-- A secret is put in as it is, other than a request or an issuer, which are stamped. One that is
put in at version 2 carries the very version that the first update of a request is stamped with. -/
theorem secret_at_stamped_version :
    let r := Sample.request [] [] none
    let x : Secret := { Sample.secret with
      metadata := { Sample.secret.metadata with resourceVersion := some "2" } }
    let s := (initial.run [.change (.insertRequest r), .change (.insertSecret x)]).store
    ∃ s', s.writeStatus (.request r) = .ok s'
      ∧ (s'.object? (.request Sample.key)).bind Versioned.version? = some "2"
      ∧ s.secrets.get? x.objectKey = some x ∧ x.metadata.resourceVersion = some "2" :=
  ⟨_, rfl, by decide +kernel, by decide +kernel, rfl⟩

end SharedStore
end CertIssuer

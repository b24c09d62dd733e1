import CertIssuer.Proofs.Answers
import CertIssuer.Proofs.Interleaving

/-!
No update is lost. Any number of clients read, insert, remove and update the objects of one store,
in any order. A status update that is based on a read is accepted exactly if nobody has touched the
object since, be the object a request or an issuer of either kind. So of all the updates that are
based on one read at most one is accepted, and none is once the object was removed.

As an insertion stamps its object first and puts it in later, objects on their way in are part of
the state. What carries the proof is that a version which was read is on none of them and is not
stamped again, so once the object of that version is gone from its place the version never is back.
-/

namespace CertIssuer

/-! ### Objects that carry versions -/

/-- The place of an object that carries a version. -/
inductive Target where
  | request (key : ObjectKey)
  | issuer (key : IssuerKey)
  deriving DecidableEq

/-- An object that carries a version: a request, or an issuer of a kind. -/
inductive Versioned where
  | request (r : CertificateRequest)
  | issuer (kind : IssuerKind) (i : Issuer)

namespace Versioned

/-- The place of an object. -/
def target : Versioned → Target
  | .request r => .request r.key
  | .issuer kind i => .issuer (.ofIssuer kind i)

/-- The version that an object carries, if it carries one. -/
def version? : Versioned → Option String
  | .request r => r.metadata.resourceVersion
  | .issuer _ i => i.metadata.resourceVersion

/-- The same object at another version. -/
def atVersion (version : String) : Versioned → Versioned
  | .request r => .request (r.atVersion version)
  | .issuer kind i => .issuer kind (i.atVersion version)

/-- The status update that an object is for. -/
def update : Versioned → Change
  | .request r => .writeRequest r
  | .issuer kind i => .writeIssuer kind i

@[simp] theorem version?_atVersion (o : Versioned) (version : String) :
    (o.atVersion version).version? = some version := by
  cases o <;> rfl

end Versioned

namespace MemoryStore

variable {s s' : MemoryStore} {t : Target} {o u : Versioned}

/-- Reads the object at a place. -/
def read (s : MemoryStore) : Target → Except StoreError Versioned
  | .request key => (s.readRequest key).map .request
  | .issuer key => (s.readIssuer key).map (.issuer key.kind)

/-- A status update is accepted. -/
def Accepts (s : MemoryStore) : Versioned → Prop
  | .request r => ∃ s', s.writeRequest r = .ok s'
  | .issuer kind i => ∃ s', s.writeIssuer kind i = .ok s'

/-- A change inserts or removes the object at a place, or is an update of it that is accepted. -/
def Changes (s : MemoryStore) (t : Target) : Change → Prop
  | .insertRequest r => t = .request r.key
  | .removeRequest key => t = .request key
  | .writeRequest r => t = .request r.key ∧ s.Accepts (.request r)
  | .insertIssuer kind i => t = .issuer (.ofIssuer kind i)
  | .writeIssuer kind i => t = .issuer (.ofIssuer kind i) ∧ s.Accepts (.issuer kind i)
  | .insertSecret _ | .allowWrites _ => False

/-- Puts a stamped object in. -/
def placeObject (s : MemoryStore) : Versioned → MemoryStore
  | .request r => s.place r
  | .issuer kind i => { s with issuers := s.issuers.insert (.ofIssuer kind i) i }

/-- The object at a place. -/
def object? (s : MemoryStore) : Target → Option Versioned
  | .request key => (s.requests.get? key).map .request
  | .issuer key => (s.issuers.get? key).map (.issuer key.kind)

theorem read_eq_ok : s.read t = .ok o ↔ s.object? t = some o := by
  cases t with
  | request key =>
    rw [read, object?, readRequest]
    cases s.requests.get? key <;> simp [found, Except.map]
  | issuer key =>
    rw [read, object?, readIssuer]
    cases s.issuers.get? key <;> simp [found, Except.map]

/-! ### What one operation does to the objects -/

theorem object?_of_requests {key : ObjectKey} {r : CertificateRequest}
    (hrequests : s'.requests = s.requests.insert key r) (hissuers : s'.issuers = s.issuers) :
    s'.object? t = if t = .request key then some (.request r) else s.object? t := by
  cases t with
  | request other =>
    rw [object?, object?, hrequests, Table.get?_insert]
    by_cases h : other = key <;> simp [h]
  | issuer other =>
    rw [object?, object?, hissuers]
    simp

theorem object?_of_issuers {kind : IssuerKind} {i i' : Issuer}
    (hissuers : s'.issuers = s.issuers.insert (.ofIssuer kind i) i')
    (hrequests : s'.requests = s.requests) :
    s'.object? t
      = if t = .issuer (.ofIssuer kind i) then some (.issuer kind i') else s.object? t := by
  cases t with
  | request other =>
    rw [object?, object?, hrequests]
    simp
  | issuer other =>
    rw [object?, object?, hissuers, Table.get?_insert]
    by_cases h : other = .ofIssuer kind i <;> simp [h]

theorem object?_placeObject (s : MemoryStore) (d : Versioned) (t : Target) :
    (s.placeObject d).object? t = if t = d.target then some d else s.object? t := by
  cases d with
  | request r => exact object?_of_requests rfl rfl
  | issuer kind i => exact object?_of_issuers rfl rfl

theorem object?_removeRequest (s : MemoryStore) (key : ObjectKey) (t : Target) :
    (s.removeRequest key).object? t = if t = .request key then none else s.object? t := by
  cases t with
  | request other =>
    rw [object?, object?, removeRequest, Table.get?_erase]
    by_cases h : other = key <;> simp [h]
  | issuer other => simp [object?, removeRequest]

/-! ### Accepted updates -/

/-- The status of a copy that carries a version is taken over by a stored object of that version. -/
theorem exists_replaceStatus_iff {σ τ : Type} {resource name version v : String}
    {stored : Option (Object σ τ)} {copy : Object σ τ} {store : Object σ τ → MemoryStore}
    (hv : copy.metadata.resourceVersion = some v) :
    (∃ s', (replaceStatus resource name version stored copy).map store = .ok s')
      ↔ ∃ o, stored = some o ∧ o.metadata.resourceVersion = some v := by
  constructor
  · rintro ⟨s', h⟩
    obtain ⟨o, hstored, current, _⟩ := replaceStatus_map_eq_ok h
    exact ⟨o, hstored, (isOutdated_eq_false_iff hv).mp current⟩
  · rintro ⟨o, rfl, ho⟩
    rw [replaceStatus_of_current ((isOutdated_eq_false_iff hv).mpr ho)]
    exact ⟨_, rfl⟩

/-- An update that carries a version is accepted if writes are and the object at its place has that
version. -/
theorem accepts_iff {v : String} (hv : u.version? = some v) :
    s.Accepts u ↔ s.writable = true ∧ ∃ o, s.object? u.target = some o ∧ o.version? = some v := by
  have hwritable : ∀ {x : Except StoreError MemoryStore} {e : StoreError},
      (∃ s', (if s.writable then x else .error e) = .ok s')
        ↔ s.writable = true ∧ ∃ s', x = .ok s' := by
    intro x e
    cases s.writable <;> simp
  have hobject : ∀ {α : Type} (a? : Option α) (f : α → Versioned),
      (∃ o, a?.map f = some o ∧ o.version? = some v)
        ↔ ∃ a, a? = some a ∧ (f a).version? = some v := by
    intro α a? f
    cases a? <;> simp
  cases u with
  | request r =>
    rw [Accepts, writeRequest, hwritable, exists_replaceStatus_iff hv]
    exact and_congr_right fun _ => (hobject (s.requests.get? r.key) .request).symm
  | issuer kind i =>
    rw [Accepts, writeIssuer, hwritable, exists_replaceStatus_iff hv]
    exact and_congr_right fun _ => (hobject (s.issuers.get? (.ofIssuer kind i)) (.issuer _)).symm

end MemoryStore

/-! ### Runs -/

/-- A store, and the objects that were stamped for an insertion and are not in yet. -/
structure SharedStore where
  store : MemoryStore
  drafts : List Versioned

/-- What a client of a store can do. -/
inductive SharedStore.Step where
  /-- Reads the object at a place. -/
  | read (t : Target)
  | change (c : Change)
  /-- Stamps an object for an insertion. -/
  | draw (o : Versioned)
  /-- Puts a stamped object in. -/
  | place (i : Nat)

namespace SharedStore

/-- The store that starts out empty. -/
def initial : SharedStore := ⟨.empty, []⟩

/-- The store after a step. -/
def step (S : SharedStore) : Step → SharedStore
  | .read _ => S
  | .change c => { S with store := S.store.apply c }
  | .draw o => ⟨S.store.draw, S.drafts ++ [o.atVersion S.store.stamp]⟩
  | .place i =>
    match S.drafts[i]? with
    | some d => ⟨S.store.placeObject d, S.drafts.eraseIdx i⟩
    | none => S

/-- The store after steps. -/
def run (S : SharedStore) (steps : List Step) : SharedStore := steps.foldl step S

/-- How many versions are stamped on the way. -/
def stamps : SharedStore → List Step → Nat
  | _, [] => 0
  | S, m :: steps =>
    (if (S.step m).store.version = S.store.version then 0 else 1) + (S.step m).stamps steps

/-- A step inserts or removes the object at a place, or is an update of it that is accepted. -/
def Touches (S : SharedStore) (t : Target) : Step → Prop
  | .read _ | .draw _ => False
  | .change c => S.store.Changes t c
  | .place i => ∃ d, S.drafts[i]? = some d ∧ t = d.target

/-- One of the steps touches the object at a place. -/
def Touched (t : Target) : SharedStore → List Step → Prop
  | _, [] => False
  | S, m :: steps => S.Touches t m ∨ (S.step m).Touched t steps

/-! ### What one step does -/

/-- What a step does to the store, and the place that it touches. -/
inductive Effect (S S' : SharedStore) : Option Target → Prop
  | kept (objects : ∀ t, S'.store.object? t = S.store.object? t)
      (version : S'.store.version = S.store.version) (drafts : S'.drafts = S.drafts) :
      Effect S S' none
  | drawn (o : Versioned) (objects : ∀ t, S'.store.object? t = S.store.object? t)
      (version : S'.store.version = S.store.nextVersion)
      (drafts : S'.drafts = S.drafts ++ [o.atVersion S.store.stamp]) : Effect S S' none
  | stamped (t : Target) (o : Versioned)
      (objects : ∀ t', S'.store.object? t' = if t' = t then some o else S.store.object? t')
      (stamp : o.version? = some S.store.stamp) (version : S'.store.version = S.store.nextVersion)
      (drafts : S'.drafts = S.drafts) : Effect S S' (some t)
  | placed (i : Nat) (d : Versioned) (draft : S.drafts[i]? = some d)
      (objects : ∀ t, S'.store.object? t = if t = d.target then some d else S.store.object? t)
      (version : S'.store.version = S.store.version) (drafts : S'.drafts = S.drafts.eraseIdx i) :
      Effect S S' (some d.target)
  | removed (t : Target)
      (objects : ∀ t', S'.store.object? t' = if t' = t then none else S.store.object? t')
      (version : S'.store.version = S.store.version) (drafts : S'.drafts = S.drafts) :
      Effect S S' (some t)

variable {S S' : SharedStore} {m : Step} {t : Target} {touched : Option Target} {o u d : Versioned}

/-- An update stamps the object at its place, or is refused and changes nothing. -/
theorem effect_update (S : SharedStore) (u : Versioned) :
    ∃ touched, Effect S (S.step (.change u.update)) touched
      ∧ ∀ t, S.store.Changes t u.update ↔ touched = some t := by
  cases u with
  | request r =>
    simp only [step, Versioned.update, MemoryStore.apply, MemoryStore.Changes, MemoryStore.Accepts]
    cases hw : S.store.writeRequest r with
    | error e => exact ⟨none, .kept (fun _ => rfl) rfl rfl, by simp⟩
    | ok s' =>
      obtain ⟨o, _, _, rfl⟩ := MemoryStore.writeRequest_eq_ok hw
      exact ⟨some (.request r.key), .stamped _ _
        (fun _ => MemoryStore.object?_of_requests rfl rfl) rfl rfl rfl, by simp [eq_comm]⟩
  | issuer kind i =>
    simp only [step, Versioned.update, MemoryStore.apply, MemoryStore.Changes, MemoryStore.Accepts]
    cases hw : S.store.writeIssuer kind i with
    | error e => exact ⟨none, .kept (fun _ => rfl) rfl rfl, by simp⟩
    | ok s' =>
      obtain ⟨o, _, _, rfl⟩ := MemoryStore.writeIssuer_eq_ok hw
      exact ⟨some (.issuer (.ofIssuer kind i)), .stamped _ _
        (fun _ => MemoryStore.object?_of_issuers rfl rfl) rfl rfl rfl, by simp [eq_comm]⟩

/-- Every step has an effect, and touches the place that the effect says. -/
theorem effect_step (S : SharedStore) (m : Step) :
    ∃ touched, Effect S (S.step m) touched ∧ ∀ t, S.Touches t m ↔ touched = some t := by
  cases m with
  | read _ => exact ⟨none, .kept (fun _ => rfl) rfl rfl, by simp [Touches]⟩
  | draw o => exact ⟨none, .drawn o (fun t => by cases t <;> rfl) rfl rfl, by simp [Touches]⟩
  | place i =>
    simp only [step, Touches]
    cases hd : S.drafts[i]? with
    | none => exact ⟨none, .kept (fun _ => rfl) rfl rfl, by simp⟩
    | some d =>
      refine ⟨some d.target, .placed i d hd (S.store.object?_placeObject d) ?_ rfl,
        by simp [eq_comm]⟩
      cases d <;> rfl
  | change c =>
    cases c with
    | insertRequest r =>
      exact ⟨some (.request r.key), .stamped _ _
        (fun _ => MemoryStore.object?_of_requests rfl rfl) rfl rfl rfl,
        by simp [Touches, MemoryStore.Changes, eq_comm]⟩
    | insertIssuer kind i =>
      exact ⟨some (.issuer (.ofIssuer kind i)), .stamped _ _
        (fun _ => MemoryStore.object?_of_issuers rfl rfl) rfl rfl rfl,
        by simp [Touches, MemoryStore.Changes, eq_comm]⟩
    | removeRequest key =>
      exact ⟨some (.request key), .removed _ (S.store.object?_removeRequest key) rfl rfl,
        by simp [Touches, MemoryStore.Changes, eq_comm]⟩
    | writeRequest r => exact S.effect_update (.request r)
    | writeIssuer kind i => exact S.effect_update (.issuer kind i)
    | insertSecret _ | allowWrites _ =>
      exact ⟨none, .kept (fun t => by cases t <;> rfl) rfl rfl,
        by simp [Touches, MemoryStore.Changes]⟩

theorem Effect.version (h : Effect S S' touched) :
    S'.store.version = S.store.version ∨ S'.store.version = S.store.nextVersion := by
  cases h with
  | kept _ version _ | placed _ _ _ _ version _ | removed _ _ version _ => exact .inl version
  | drawn _ _ version _ | stamped _ _ _ _ version _ => exact .inr version

/-! ### Versions that were read -/

/-- A version was stamped. -/
def Stamped (S : SharedStore) (v : String) : Prop :=
  ∃ n, v = toString n ∧ n ≤ S.store.version.toNat

theorem Stamped.mono {v : String} (h : S.Stamped v)
    (hv : S.store.version.toNat ≤ S'.store.version.toNat) : S'.Stamped v := by
  obtain ⟨n, hn, hle⟩ := h
  exact ⟨n, hn, Nat.le_trans hle hv⟩

/-- The next version is stamped once it is the last one. -/
theorem stamped_stamp (version : S'.store.version = S.store.nextVersion) :
    S'.Stamped S.store.stamp := ⟨_, rfl, Nat.le_of_eq (by rw [version])⟩

/-- The next version is not one of those that were stamped. -/
theorem Stamped.stamp_ne {v : String} (h : S.Stamped v)
    (hv : S.store.version.toNat ≤ S.store.nextVersion.toNat) : S.store.stamp ≠ v := by
  obtain ⟨n, rfl, hn⟩ := h
  intro hstamp
  have hlt := MemoryStore.lt_nextVersion hv
  have heq : S.store.nextVersion.toNat = n := MemoryStore.eq_of_toString_eq hstamp
  omega

/-- A version was stamped, and is on no object on its way in. -/
structure Known (S : SharedStore) (v : String) : Prop where
  stamped : S.Stamped v
  unused : ∀ d ∈ S.drafts, d.version? ≠ some v

/-- A version that is known stays so. -/
theorem Known.effect {v : String} (known : S.Known v) (h : Effect S S' touched)
    (hv : S.store.version.toNat ≤ S'.store.version.toNat) : S'.Known v := by
  refine ⟨known.stamped.mono hv, fun d hd => ?_⟩
  cases h with
  | kept _ _ drafts | stamped _ _ _ _ _ drafts | removed _ _ _ drafts =>
    rw [drafts] at hd
    exact known.unused d hd
  | placed _ _ _ _ _ drafts =>
    rw [drafts] at hd
    exact known.unused d ((List.eraseIdx_sublist ..).subset hd)
  | drawn o _ version drafts =>
    rw [drafts] at hd
    rcases List.mem_append.mp hd with hold | hnew
    · exact known.unused d hold
    · rw [List.mem_singleton.mp hnew, Versioned.version?_atVersion]
      intro heq
      exact known.stamped.stamp_ne (version ▸ hv) (Option.some.inj heq)

/-- The object at a place is not of that version. -/
def Lacks (S : SharedStore) (t : Target) (v : String) : Prop :=
  ∀ o, S.store.object? t = some o → o.version? ≠ some v

/-- Once a place is touched, it lacks the version that was read there. -/
theorem Known.lacks_of_touched {v : String} (known : S.Known v) (h : Effect S S' (some t))
    (hv : S.store.version.toNat ≤ S'.store.version.toNat) : S'.Lacks t v := by
  intro o ho
  cases h with
  | stamped _ x objects stamp version _ =>
    rw [objects, if_pos rfl] at ho
    cases ho
    rw [stamp]
    intro heq
    exact known.stamped.stamp_ne (version ▸ hv) (Option.some.inj heq)
  | placed i d draft objects _ _ =>
    rw [objects, if_pos rfl] at ho
    cases ho
    exact known.unused _ (List.mem_of_getElem? draft)
  | removed _ objects _ _ =>
    rw [objects, if_pos rfl] at ho
    cases ho

/-- What is not touched stays as it is. -/
theorem Effect.object?_eq (h : Effect S S' touched) (hne : touched ≠ some t) :
    S'.store.object? t = S.store.object? t := by
  cases h with
  | kept objects _ _ | drawn _ objects _ _ => exact objects t
  | stamped t' _ objects _ _ _ | placed _ _ _ objects _ _ | removed t' objects _ _ =>
    rw [objects, if_neg fun heq => hne (congrArg some heq.symm)]

/-- A place that lacks a known version lacks it for good. -/
theorem Lacks.effect {v : String} (lacks : S.Lacks t v) (known : S.Known v)
    (h : Effect S S' touched) (hv : S.store.version.toNat ≤ S'.store.version.toNat) :
    S'.Lacks t v := by
  by_cases htouched : touched = some t
  · rw [htouched] at h
    exact known.lacks_of_touched h hv
  · intro o ho
    rw [h.object?_eq htouched] at ho
    exact lacks o ho

/-! ### The invariant -/

/-- The versions of the objects are known, and those of the objects on their way in were stamped and
are apart from one another. -/
structure Sound (S : SharedStore) : Prop where
  stored : ∀ t o, S.store.object? t = some o → ∃ v, o.version? = some v ∧ S.Known v
  stamped : ∀ d ∈ S.drafts, ∃ v, d.version? = some v ∧ S.Stamped v
  apart : S.drafts.Pairwise fun d d' => d.version? ≠ d'.version?

theorem sound_initial : initial.Sound := by
  refine ⟨fun t o ho => ?_, fun d hd => ?_, .nil⟩
  · have hnone : initial.store.object? t = none := by cases t <;> rfl
    cases hnone.symm.trans ho
  · cases hd

/-- Every step keeps the invariant, unless it starts the counter over. -/
theorem Sound.effect (sound : S.Sound) (h : Effect S S' touched)
    (hv : S.store.version.toNat ≤ S'.store.version.toNat) : S'.Sound := by
  have hold : ∀ t o, S.store.object? t = some o → ∃ v, o.version? = some v ∧ S'.Known v := by
    intro t o ho
    obtain ⟨v, hversion, known⟩ := sound.stored t o ho
    exact ⟨v, hversion, known.effect h hv⟩
  have hstamped : ∀ d ∈ S.drafts, ∃ v, d.version? = some v ∧ S'.Stamped v := by
    intro d hd
    obtain ⟨v, hversion, hstamp⟩ := sound.stamped d hd
    exact ⟨v, hversion, hstamp.mono hv⟩
  cases h with
  | kept objects _ drafts =>
    rw [← drafts] at hstamped
    exact ⟨fun t o ho => hold t o (objects t ▸ ho), hstamped, drafts ▸ sound.apart⟩
  | drawn o objects version drafts =>
    refine ⟨fun t o ho => hold t o (objects t ▸ ho), fun d hd => ?_, ?_⟩
    · rw [drafts] at hd
      rcases List.mem_append.mp hd with hdraft | hnew
      · exact hstamped d hdraft
      · rw [List.mem_singleton.mp hnew, Versioned.version?_atVersion]
        exact ⟨_, rfl, stamped_stamp version⟩
    · rw [drafts]
      refine List.pairwise_append.mpr
        ⟨sound.apart, List.pairwise_singleton _ _, fun d hd x hx => ?_⟩
      obtain ⟨v, hversion, hstamp⟩ := sound.stamped d hd
      rw [List.mem_singleton.mp hx, Versioned.version?_atVersion, hversion]
      intro heq
      exact hstamp.stamp_ne (version ▸ hv) (Option.some.inj heq).symm
  | stamped t o objects stamp version drafts =>
    refine ⟨fun t' x hx => ?_, drafts ▸ hstamped, drafts ▸ sound.apart⟩
    rw [objects] at hx
    split at hx
    · cases hx
      refine ⟨_, stamp, stamped_stamp version, fun d hd heq => ?_⟩
      rw [drafts] at hd
      obtain ⟨v, hversion, hstamp⟩ := sound.stamped d hd
      rw [hversion] at heq
      exact hstamp.stamp_ne (version ▸ hv) (Option.some.inj heq).symm
    · exact hold t' x hx
  | placed i d draft objects _ drafts =>
    have hsub : S'.drafts.Sublist S.drafts := drafts ▸ List.eraseIdx_sublist ..
    refine ⟨fun t x hx => ?_, fun y hy => hstamped y (hsub.subset hy), sound.apart.sublist hsub⟩
    rw [objects] at hx
    split at hx
    · cases hx
      obtain ⟨v, hversion, hstamp⟩ := hstamped d (List.mem_of_getElem? draft)
      refine ⟨v, hversion, hstamp, fun y hy => ?_⟩
      rw [drafts] at hy
      rw [← hversion]
      rcases Fleet.related_of_mem_eraseIdx sound.apart draft hy with hne | hne
      · exact hne.symm
      · exact hne
    · exact hold t x hx
  | removed t objects _ drafts =>
    refine ⟨fun t' x hx => ?_, drafts ▸ hstamped, drafts ▸ sound.apart⟩
    rw [objects] at hx
    split at hx
    · cases hx
    · exact hold t' x hx

/-! ### Runs -/

/-- As long as fewer than 2^64 versions are stamped, the counter only goes up. -/
theorem version_le_step {steps : List Step}
    (h : S.store.version.toNat + S.stamps (m :: steps) < UInt64.size) :
    S.store.version.toNat ≤ (S.step m).store.version.toNat
      ∧ (S.step m).store.version.toNat + (S.step m).stamps steps < UInt64.size := by
  obtain ⟨touched, effect, _⟩ := S.effect_step m
  exact MemoryStore.version_le_of_stamps effect.version h

theorem Sound.run {steps : List Step} (sound : S.Sound)
    (h : S.store.version.toNat + S.stamps steps < UInt64.size) : (S.run steps).Sound := by
  induction steps generalizing S with
  | nil => exact sound
  | cons m steps ih =>
    obtain ⟨hv, hrest⟩ := version_le_step h
    obtain ⟨touched, effect, _⟩ := S.effect_step m
    exact ih (sound.effect effect hv) hrest

theorem Lacks.run {steps : List Step} {v : String} (lacks : S.Lacks t v) (known : S.Known v)
    (h : S.store.version.toNat + S.stamps steps < UInt64.size) : (S.run steps).Lacks t v := by
  induction steps generalizing S with
  | nil => exact lacks
  | cons m steps ih =>
    obtain ⟨hv, hrest⟩ := version_le_step h
    obtain ⟨touched, effect, _⟩ := S.effect_step m
    exact ih (lacks.effect known effect hv) (known.effect effect hv) hrest

/-- After a run, a place that was touched lacks the version that was read there, and one that was
not holds what was read. -/
theorem Known.run {steps : List Step} {v : String} (known : S.Known v)
    (h : S.store.version.toNat + S.stamps steps < UInt64.size) :
    (S.Touched t steps → (S.run steps).Lacks t v)
      ∧ (¬ S.Touched t steps → (S.run steps).store.object? t = S.store.object? t) := by
  induction steps generalizing S with
  | nil => exact ⟨False.elim, fun _ => rfl⟩
  | cons m steps ih =>
    obtain ⟨hv, hrest⟩ := version_le_step h
    obtain ⟨touched, effect, touches⟩ := S.effect_step m
    obtain ⟨later, untouched⟩ := ih (known.effect effect hv) hrest
    constructor
    · rintro (now | after)
      · rw [(touches t).mp now] at effect
        exact (known.lacks_of_touched effect hv).run (known.effect effect hv) hrest
      · exact later after
    · intro hnot
      have hnow : touched ≠ some t := fun heq => hnot (.inl ((touches t).mpr heq))
      exact (untouched fun after => hnot (.inr after)).trans (effect.object?_eq hnow)

theorem stamps_append (S : SharedStore) (l₁ l₂ : List Step) :
    S.stamps (l₁ ++ l₂) = S.stamps l₁ + (S.run l₁).stamps l₂ := by
  induction l₁ generalizing S with
  | nil => simp [stamps, run]
  | cons m l₁ ih =>
    rw [List.cons_append, stamps, stamps, ih (S.step m), Nat.add_assoc]
    rfl

/-- The counter has room for what is left of a run. -/
theorem version_le_run {l₁ l₂ : List Step}
    (h : S.store.version.toNat + S.stamps (l₁ ++ l₂) < UInt64.size) :
    (S.run l₁).store.version.toNat + (S.run l₁).stamps l₂ < UInt64.size := by
  induction l₁ generalizing S with
  | nil => exact h
  | cons m l₁ ih => exact ih (version_le_step h).2

/-- A place is touched if one of the steps touches it. -/
theorem touched_of_touches {mid rest : List Step} (h : (S.run mid).Touches t m) :
    S.Touched t (mid ++ m :: rest) := by
  induction mid generalizing S with
  | nil => exact .inl h
  | cons _ mid ih => exact .inr (ih h)

/-! ### No lost update -/

/-- An update at the version of an object that was read is accepted, as long as updates are, exactly
if no step since has inserted or removed the object or is an accepted update of it.

So it is refused once another update of the object was accepted, be it based on the same read, and
once the object was removed, even if it was put in again. -/
theorem update_accepted_iff_untouched (before since : List Step)
    (few : initial.stamps (before ++ since) < UInt64.size)
    (read : (initial.run before).store.read t = .ok o) (place : u.target = t)
    (based : u.version? = o.version?) :
    let S := initial.run before
    let S' := S.run since
    (S'.store.writable = true → (S'.store.Accepts u ↔ ¬ S.Touched t since))
      ∧ (∀ mid u' rest, since = mid ++ .change u'.update :: rest → u'.target = t →
        (S.run mid).store.Accepts u' → ¬ S'.store.Accepts u)
      ∧ (∀ mid key rest, since = mid ++ .change (.removeRequest key) :: rest →
        t = .request key → ¬ S'.store.Accepts u) := by
  intro S S'
  have hbound : initial.store.version.toNat + initial.stamps (before ++ since) < UInt64.size := by
    rw [show initial.store.version.toNat = 0 from rfl, Nat.zero_add]
    exact few
  have hbefore : initial.store.version.toNat + initial.stamps before < UInt64.size := by
    rw [stamps_append] at hbound
    omega
  have hstored := MemoryStore.read_eq_ok.mp read
  obtain ⟨v, hversion, known⟩ := (sound_initial.run hbefore).stored t o hstored
  have hu : u.version? = some v := based.trans hversion
  obtain ⟨lacks, same⟩ := known.run (t := t) (version_le_run hbound)
  have refused : S.Touched t since → ¬ S'.store.Accepts u := by
    intro touched accepted
    obtain ⟨_, x, hx, hv⟩ := (MemoryStore.accepts_iff hu).mp accepted
    rw [place] at hx
    exact lacks touched x hx hv
  refine ⟨fun writable => ⟨fun accepted touched => refused touched accepted, fun untouched => ?_⟩,
    ?_, ?_⟩
  · refine (MemoryStore.accepts_iff hu).mpr ⟨writable, o, ?_, hversion⟩
    rw [place]
    exact (same untouched).trans hstored
  · rintro mid u' rest rfl htarget accepted
    refine refused (touched_of_touches ?_)
    cases u' with
    | request r => exact ⟨htarget.symm, accepted⟩
    | issuer kind i => exact ⟨htarget.symm, accepted⟩
  · rintro mid key rest rfl rfl
    exact refused (touched_of_touches rfl)

/-- A copy of a request is as good as the request while only issuers come and go, and no good once
the request was removed, even if it was put in again. -/
theorem update_accepted_iff_untouched_recreated :
    let r := Sample.request [] [] none
    let put : List Step := [.change (.insertRequest r)]
    (((initial.run put).run [.change (.insertIssuer .origin Sample.issuer)]).store.Accepts
        (.request (r.atVersion "1")))
      ∧ ¬ ((initial.run put).run [.change (.removeRequest Sample.key), .draw (.request r),
        .place 0]).store.Accepts (.request (r.atVersion "1")) := by
  intro r put
  have read : (initial.run put).store.read (.request Sample.key)
      = .ok (.request (r.atVersion "1")) := rfl
  constructor
  · obtain ⟨accepted, _⟩ := update_accepted_iff_untouched put
      [.change (.insertIssuer .origin Sample.issuer)] (by decide +kernel) read rfl rfl
    refine (accepted rfl).mpr ?_
    rintro (htarget | h)
    · cases htarget
    · exact h
  · obtain ⟨_, _, removed⟩ := update_accepted_iff_untouched put
      [.change (.removeRequest Sample.key), .draw (.request r), .place 0] (by decide +kernel) read
      rfl rfl
    exact removed [] Sample.key _ rfl rfl

end SharedStore
end CertIssuer

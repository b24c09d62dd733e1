import CertIssuer.Store.Memory

/-!
Versions: why a copy that carries the version of a stored request is that request. A request is
stamped with the next version when it is put in and when its status is written, so one that changed
after it was read carries a version that nobody has read yet, be it the same request or one put in
after a removal.

An insertion stamps its request first and puts it in later, and others may get in between. A request
on its way in is a draft: its version is older than the counter says, but no copy carries it.

All of this holds as long as the counter does not start over, which takes 2^64 stamps.
-/

namespace CertIssuer

/-! ### Changes of a store -/

/-- A change that a client makes to a store. -/
inductive Change where
  | insertRequest (r : CertificateRequest)
  | removeRequest (key : ObjectKey)
  | writeRequest (r : CertificateRequest)
  | insertIssuer (kind : IssuerKind) (i : Issuer)
  | writeIssuer (kind : IssuerKind) (i : Issuer)
  | insertSecret (x : Secret)
  /-- From now on status writes are accepted, or fail. -/
  | allowWrites (on : Bool)

namespace MemoryStore

/-- The store after the next version was stamped on something that is not in it. -/
def draw (s : MemoryStore) : MemoryStore := { s with version := s.nextVersion }

/-- Puts a stamped request in. An insertion draws the version of its request, and then does this. -/
def place (s : MemoryStore) (d : CertificateRequest) : MemoryStore :=
  { s with requests := s.requests.insert d.key d }

/-- The store after a change; a write that fails changes nothing. -/
def apply (s : MemoryStore) : Change → MemoryStore
  | .insertRequest r => s.insertRequest r
  | .removeRequest key => s.removeRequest key
  | .writeRequest r => (s.writeRequest r).toOption.getD s
  | .insertIssuer kind i => s.insertIssuer kind i
  | .writeIssuer kind i => (s.writeIssuer kind i).toOption.getD s
  | .insertSecret x => s.insertSecret x
  | .allowWrites on => { s with writable := on }

/-- The store after changes of the empty one. -/
def afterChanges (changes : List Change) : MemoryStore := changes.foldl apply empty

variable {s s' : MemoryStore} {r o d : CertificateRequest} {key : ObjectKey}

/-! ### What writes do -/

/-- A copy that carries a version is current if the stored object has that version. -/
theorem isOutdated_eq_false_iff {stored copy : Metadata} {version : String}
    (h : copy.resourceVersion = some version) :
    isOutdated stored copy = false ↔ stored.resourceVersion = some version := by
  simp [isOutdated, h]

theorem replaceStatus_of_current {σ τ : Type} {resource name version : String} {o copy : Object σ τ}
    (current : isOutdated o.metadata copy.metadata = false) :
    replaceStatus resource name version (some o) copy
      = .ok ({ o with status := copy.status }.atVersion version) := by
  rw [replaceStatus, if_neg (by simp [current])]

/-- A status is replaced in a stored object which is not newer than the copy. -/
theorem replaceStatus_map_eq_ok {σ τ : Type} {resource name version : String}
    {stored : Option (Object σ τ)} {copy : Object σ τ} {store : Object σ τ → MemoryStore}
    (h : (replaceStatus resource name version stored copy).map store = .ok s') :
    ∃ o, stored = some o ∧ isOutdated o.metadata copy.metadata = false
      ∧ s' = store ({ o with status := copy.status }.atVersion version) := by
  unfold replaceStatus at h
  split at h
  · cases h
  · next o =>
    split at h
    · cases h
    · next hcurrent =>
      cases h
      exact ⟨o, rfl, by simpa using hcurrent, rfl⟩

/-- An accepted write replaces the status of a stored request which is not newer than the copy. -/
theorem writeRequest_eq_ok (h : s.writeRequest r = .ok s') :
    ∃ o, s.requests.get? r.key = some o ∧ isOutdated o.metadata r.metadata = false
      ∧ s' = { s with
        requests := s.requests.insert r.key ({ o with status := r.status }.atVersion s.stamp),
        version := s.nextVersion, writes := s.writes + 1 } := by
  unfold writeRequest at h
  split at h
  · obtain ⟨o, hget, hcurrent, hs⟩ := replaceStatus_map_eq_ok h
    exact ⟨o, hget, hcurrent, hs⟩
  · cases h

theorem writeIssuer_eq_ok {kind : IssuerKind} {i : Issuer} (h : s.writeIssuer kind i = .ok s') :
    ∃ o, s.issuers.get? (.ofIssuer kind i) = some o ∧ isOutdated o.metadata i.metadata = false
      ∧ s' = { s with
        issuers := s.issuers.insert (.ofIssuer kind i)
          ({ o with status := i.status }.atVersion s.stamp),
        version := s.nextVersion, writes := s.writes + 1 } := by
  unfold writeIssuer at h
  split at h
  · obtain ⟨o, hget, hcurrent, hs⟩ := replaceStatus_map_eq_ok h
    exact ⟨o, hget, hcurrent, hs⟩
  · cases h

/-! ### Stamps -/

/-- The request carries a version stamped after the first `low` and within the first `high`. -/
def StampedWithin (low high : Nat) (o : CertificateRequest) : Prop :=
  ∃ n, low < n ∧ n ≤ high ∧ o.metadata.resourceVersion = some (toString n)

theorem StampedWithin.mono {low high high' : Nat} (h : StampedWithin low high o)
    (hle : high ≤ high') : StampedWithin low high' o := by
  obtain ⟨n, hlow, hhigh, hv⟩ := h
  exact ⟨n, hlow, Nat.le_trans hhigh hle, hv⟩

/-- Different versions are written differently. -/
theorem eq_of_toString_eq {m n : Nat} (h : toString m = toString n) : m = n := by
  rw [Nat.toString_eq_repr, Nat.toString_eq_repr] at h
  have hdigits : Nat.toDigits 10 m = Nat.toDigits 10 n := by
    rw [← Nat.toList_repr, ← Nat.toList_repr, h]
  rw [← Nat.ofDigitChars_ten_toDigits (n := m), hdigits, Nat.ofDigitChars_ten_toDigits]

/-- A version stamped later is another one. -/
theorem StampedWithin.version_ne {low mid high : Nat} (ho : StampedWithin mid high o)
    (hr : StampedWithin low mid r) : o.metadata.resourceVersion ≠ r.metadata.resourceVersion := by
  obtain ⟨n, hn, _, hvn⟩ := ho
  obtain ⟨m, _, hm, hvm⟩ := hr
  rw [hvn, hvm]
  intro h
  have : n = m := eq_of_toString_eq (Option.some.inj h)
  omega

/-- The counter has not started over when it shows no less than before. -/
theorem lt_nextVersion (h : s.version.toNat ≤ s.nextVersion.toNat) :
    s.version.toNat < s.nextVersion.toNat := by
  unfold nextVersion at *
  have hadd := UInt64.toNat_add s.version 1
  have hone : (1 : UInt64).toNat = 1 := rfl
  have hlt := s.version.toNat_lt
  omega

/-- The counter does not start over as long as fewer than 2^64 versions are stamped, `rest` of them
later. -/
theorem version_le_of_stamps {rest : Nat}
    (stamped : s'.version = s.version ∨ s'.version = s.nextVersion)
    (h : s.version.toNat + ((if s'.version = s.version then 0 else 1) + rest) < UInt64.size) :
    s.version.toNat ≤ s'.version.toNat ∧ s'.version.toNat + rest < UInt64.size := by
  rcases stamped with hsame | hnext
  · rw [if_pos hsame] at h
    rw [hsame]
    omega
  · have hadd := UInt64.toNat_add s.version 1
    have hone : (1 : UInt64).toNat = 1 := rfl
    have hsize : UInt64.size = 2 ^ 64 := rfl
    rw [← nextVersion, ← hnext] at hadd
    split at h
    · next hsame =>
      rw [hsame]
      omega
    · omega

/-! ### What one change does to the requests -/

/-- Every request is kept under its key. -/
def Keyed (s : MemoryStore) : Prop := ∀ key o, s.requests.get? key = some o → o.key = key

/-- One change stamps at most one version, and after it every request was stored under its key
before or was stamped by the change. -/
structure Touched (s s' : MemoryStore) : Prop where
  version : s'.version = s.version ∨ s'.version = s.nextVersion
  stored : ∀ key o, s'.requests.get? key = some o → s.requests.get? key = some o
    ∨ o.key = key ∧ o.metadata.resourceVersion = some s.stamp ∧ s'.version = s.nextVersion

theorem Touched.of_same (h : s'.requests = s.requests)
    (hversion : s'.version = s.version ∨ s'.version = s.nextVersion) : s.Touched s' := by
  refine ⟨hversion, fun key o ho => ?_⟩
  rw [h] at ho
  exact .inl ho

/-- A request put in at the next version is the only difference. -/
theorem Touched.of_insert (h : s'.requests = s.requests.insert o.key (o.atVersion s.stamp))
    (hversion : s'.version = s.nextVersion) : s.Touched s' := by
  refine ⟨.inr hversion, fun key x hx => ?_⟩
  rw [h, Table.get?_insert] at hx
  split at hx
  · next hkey =>
    cases hx
    exact .inr ⟨hkey.symm, rfl, hversion⟩
  · exact .inl hx

theorem Touched.of_writeRequest (keyed : s.Keyed) (h : s.writeRequest r = .ok s') :
    s.Touched s' := by
  obtain ⟨o, hget, _, rfl⟩ := writeRequest_eq_ok h
  refine .of_insert (o := { o with status := r.status }) ?_ rfl
  rw [← keyed _ o hget]
  rfl

theorem Touched.of_apply (keyed : s.Keyed) (c : Change) : s.Touched (s.apply c) := by
  cases c with
  | insertRequest r => exact .of_insert rfl rfl
  | removeRequest key =>
    refine ⟨.inl rfl, fun other o ho => ?_⟩
    change (s.requests.erase key).get? other = some o at ho
    rw [Table.get?_erase] at ho
    split at ho
    · cases ho
    · exact .inl ho
  | writeRequest r =>
    simp only [apply]
    cases hw : s.writeRequest r with
    | error e => exact .of_same rfl (.inl rfl)
    | ok s' => exact .of_writeRequest keyed hw
  | writeIssuer kind i =>
    simp only [apply]
    cases hw : s.writeIssuer kind i with
    | error e => exact .of_same rfl (.inl rfl)
    | ok s' =>
      obtain ⟨o, _, _, rfl⟩ := writeIssuer_eq_ok hw
      exact .of_same rfl (.inr rfl)
  | insertIssuer _ _ => exact .of_same rfl (.inr rfl)
  | insertSecret _ | allowWrites _ => exact .of_same rfl (.inl rfl)

theorem Touched.keyed (h : s.Touched s') (keyed : s.Keyed) : s'.Keyed := by
  intro key o ho
  rcases h.stored key o ho with hold | ⟨hkey, _⟩
  · exact keyed key o hold
  · exact hkey

/-- Whatever is done to a store that starts out empty, its requests are under their keys. -/
theorem keyed_afterChanges (changes : List Change) : (afterChanges changes).Keyed := by
  have hfold : ∀ s : MemoryStore, s.Keyed → (changes.foldl apply s).Keyed := by
    induction changes with
    | nil => exact fun s keyed => keyed
    | cons c changes ih => exact fun s keyed => ih _ ((Touched.of_apply keyed c).keyed keyed)
  exact hfold empty fun key o h => nomatch h

theorem keyed_of_reached {changes : List Change} (reached : s = afterChanges changes) :
    s.Keyed := by
  rw [reached]
  exact keyed_afterChanges changes

/-- In the later store every request is a stored one of the earlier store under the same key, or
carries a version stamped since. -/
structure Advances (s s' : MemoryStore) : Prop where
  version_le : s.version.toNat ≤ s'.version.toNat
  stored : ∀ key o, s'.requests.get? key = some o → s.requests.get? key = some o
    ∨ o.key = key ∧ StampedWithin s.version.toNat s'.version.toNat o

theorem Advances.refl (s : MemoryStore) : Advances s s := ⟨Nat.le_refl _, fun _ _ => .inl⟩

/-- Every change advances the store unless the counter starts over. -/
theorem Touched.advances (h : s.Touched s') (hv : s.version.toNat ≤ s'.version.toNat) :
    Advances s s' := by
  refine ⟨hv, fun key o ho => ?_⟩
  rcases h.stored key o ho with hold | ⟨hkey, hstamp, hversion⟩
  · exact .inl hold
  · rw [hversion] at hv ⊢
    exact .inr ⟨hkey, _, lt_nextVersion hv, Nat.le_refl _, hstamp⟩

/-! ### Stores and copies -/

/-- Every request is kept under its key, at a version stamped so far. -/
def WellKept (s : MemoryStore) : Prop :=
  ∀ key o, s.requests.get? key = some o → o.key = key ∧ StampedWithin 0 s.version.toNat o

theorem WellKept.keyed (kept : s.WellKept) : s.Keyed := fun key o h => (kept key o h).1

theorem wellKept_empty : empty.WellKept := by
  intro key o h
  cases h

theorem WellKept.advance (kept : s.WellKept) (adv : Advances s s') : s'.WellKept := by
  intro key o h
  rcases adv.stored key o h with hold | ⟨hkey, hstamp⟩
  · obtain ⟨hkey, hstamp⟩ := kept key o hold
    exact ⟨hkey, hstamp.mono adv.version_le⟩
  · obtain ⟨n, hlow, hhigh, hv⟩ := hstamp
    exact ⟨hkey, n, by omega, hhigh, hv⟩

/-- A copy that was read at some time: it carries a version stamped so far, and a stored request of
that version is the copy. -/
structure Held (s : MemoryStore) (r : CertificateRequest) : Prop where
  stamped : StampedWithin 0 s.version.toNat r
  same : ∀ o, s.requests.get? r.key = some o →
    o.metadata.resourceVersion = r.metadata.resourceVersion → o = r

/-- A copy is held from the moment it is read. -/
theorem WellKept.held (kept : s.WellKept) (h : s.requests.get? key = some r) : s.Held r := by
  obtain ⟨rfl, hstamp⟩ := kept key r h
  exact ⟨hstamp, fun o ho _ => Option.some.inj (ho.symm.trans h)⟩

/-- A copy stays one whatever happens to the store. -/
theorem Held.advance (held : s.Held r) (adv : Advances s s') : s'.Held r := by
  refine ⟨held.stamped.mono adv.version_le, fun o ho hversion => ?_⟩
  rcases adv.stored _ o ho with hold | ⟨_, hstamp⟩
  · exact held.same o hold hversion
  · exact absurd hversion (hstamp.version_ne held.stamped)

/-- A write based on a copy is accepted only over the copy itself. -/
theorem Held.stored_of_write {r' : CertificateRequest} (held : s.Held r)
    (hmeta : r'.metadata = r.metadata) (h : s.writeRequest r' = .ok s') :
    s.requests.get? r'.key = some r
      ∧ s'.requests
        = s.requests.insert r'.key ({ r with status := r'.status }.atVersion s.stamp) := by
  obtain ⟨o, hget, hcurrent, rfl⟩ := writeRequest_eq_ok h
  have hkey : r'.key = r.key := by rw [Object.key, Object.key, hmeta]
  obtain ⟨n, _, _, hversion⟩ := held.stamped
  have hsame : o = r := by
    refine held.same o (hkey ▸ hget) ?_
    rw [isOutdated, hmeta, hversion] at hcurrent
    rw [hversion]
    simpa using hcurrent
  rw [← hsame]
  exact ⟨hget, rfl⟩

/-! ### Drafts -/

/-- A request on its way in: it carries a version stamped so far, which is on no stored request. -/
structure Pending (s : MemoryStore) (d : CertificateRequest) : Prop where
  stamped : StampedWithin 0 s.version.toNat d
  unused : ∀ key o, s.requests.get? key = some o →
    o.metadata.resourceVersion ≠ d.metadata.resourceVersion

theorem stampedWithin_draw (r : CertificateRequest) (hv : s.version.toNat ≤ s.draw.version.toNat) :
    StampedWithin s.version.toNat s.draw.version.toNat (r.atVersion s.stamp) :=
  ⟨_, lt_nextVersion hv, Nat.le_refl _, rfl⟩

/-- Whatever is stamped now is on its way in. -/
theorem WellKept.pending_draw (kept : s.WellKept) (hv : s.version.toNat ≤ s.draw.version.toNat) :
    s.draw.Pending (r.atVersion s.stamp) := by
  have hstamp := stampedWithin_draw r hv
  refine ⟨?_, fun key o ho => ?_⟩
  · obtain ⟨n, hlow, hhigh, hn⟩ := hstamp
    exact ⟨n, by omega, hhigh, hn⟩
  · exact (hstamp.version_ne (kept key o ho).2).symm

theorem Pending.advance (pending : s.Pending d) (adv : Advances s s') : s'.Pending d := by
  refine ⟨pending.stamped.mono adv.version_le, fun key o ho => ?_⟩
  rcases adv.stored key o ho with hold | ⟨_, hstamp⟩
  · exact pending.unused key o hold
  · exact hstamp.version_ne pending.stamped

/-- Another draft put in leaves this one on its way. -/
theorem Pending.place {x : CertificateRequest} (pending : s.Pending d)
    (hne : x.metadata.resourceVersion ≠ d.metadata.resourceVersion) : (s.place x).Pending d := by
  refine ⟨pending.stamped, fun key o ho => ?_⟩
  change (s.requests.insert x.key x).get? key = some o at ho
  rw [Table.get?_insert] at ho
  split at ho
  · cases ho
    exact hne
  · exact pending.unused key o ho

theorem WellKept.place (kept : s.WellKept) (pending : s.Pending d) : (s.place d).WellKept := by
  intro key o ho
  change (s.requests.insert d.key d).get? key = some o at ho
  rw [Table.get?_insert] at ho
  split at ho
  · next hkey =>
    cases ho
    exact ⟨hkey.symm, pending.stamped⟩
  · exact kept key o ho

/-- A draft put in is no copy. -/
theorem Held.place (held : s.Held r)
    (hne : d.metadata.resourceVersion ≠ r.metadata.resourceVersion) : (s.place d).Held r := by
  refine ⟨held.stamped, fun o ho hversion => ?_⟩
  change (s.requests.insert d.key d).get? r.key = some o at ho
  rw [Table.get?_insert] at ho
  split at ho
  · cases ho
    exact absurd hversion hne
  · exact held.same o ho hversion

end MemoryStore
end CertIssuer

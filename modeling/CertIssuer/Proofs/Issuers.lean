import CertIssuer.Proofs.Answers

/-!
Issuers in a store. Every issuer is kept under its key, whatever is done to a store that starts out
empty, so the issuer that a reconcile has read is the one its status write reaches.
-/

namespace CertIssuer

namespace MemoryStore

variable {s s' : MemoryStore} {kind : IssuerKind} {key : IssuerKey} {i i' : Issuer}

/-! ### Issuers are under their keys -/

/-- Every issuer is kept under its key. -/
def IssuersKeyed (s : MemoryStore) : Prop :=
  ∀ key i, s.issuers.get? key = some i → IssuerKey.ofIssuer key.kind i = key

/-- An issuer put in under its key is the only difference. -/
theorem IssuersKeyed.of_insert (keyed : s.IssuersKeyed) (kind : IssuerKind) (i : Issuer)
    (h : s'.issuers = s.issuers.insert (.ofIssuer kind i) (i.atVersion s.stamp)) :
    s'.IssuersKeyed := by
  intro key x hx
  rw [h, Table.get?_insert] at hx
  split at hx
  · next hkey =>
    cases hx
    rw [hkey, IssuerKey.kind_ofIssuer]
    rfl
  · exact keyed key x hx

theorem IssuersKeyed.apply (keyed : s.IssuersKeyed) (c : Change) : (s.apply c).IssuersKeyed := by
  cases c with
  | insertIssuer kind i => exact keyed.of_insert kind i rfl
  | writeIssuer kind i =>
    simp only [MemoryStore.apply]
    cases hw : s.writeIssuer kind i with
    | error e => exact keyed
    | ok s' =>
      obtain ⟨o, hget, _, rfl⟩ := writeIssuer_eq_ok hw
      have hkey := keyed _ o hget
      rw [IssuerKey.kind_ofIssuer] at hkey
      refine keyed.of_insert kind { o with status := i.status } ?_
      rw [show IssuerKey.ofIssuer kind { o with status := i.status } = .ofIssuer kind i from hkey]
      rfl
  | writeRequest r =>
    simp only [MemoryStore.apply]
    cases hw : s.writeRequest r with
    | error e => exact keyed
    | ok s' =>
      obtain ⟨o, _, _, rfl⟩ := writeRequest_eq_ok hw
      exact keyed
  | insertRequest _ | removeRequest _ | insertSecret _ | allowWrites _ => exact keyed

theorem issuersKeyed_of_reached {changes : List Change} (reached : s = afterChanges changes) :
    s.IssuersKeyed := by
  have hfold : ∀ s : MemoryStore, s.IssuersKeyed →
      (changes.foldl MemoryStore.apply s).IssuersKeyed := by
    induction changes generalizing s with
    | nil => exact fun s keyed => keyed
    | cons c changes ih => exact fun s keyed => ih rfl _ (keyed.apply c)
  rw [reached]
  exact hfold empty fun key i h => nomatch h

/-! ### Status writes -/

/-- The store after an accepted status write of the stored issuer of a key. -/
def withIssuerStatus (s : MemoryStore) (key : IssuerKey) (i : Issuer)
    (status : Option IssuerStatus) : MemoryStore :=
  { s with
    issuers := s.issuers.insert key ({ i with status := status }.atVersion s.stamp)
    version := s.nextVersion
    writes := s.writes + 1 }

/-- A write over what is stored is accepted as long as writes are. -/
theorem writeIssuer_of_stored (stored : s.issuers.get? (.ofIssuer kind i) = some i)
    (hmeta : i'.metadata = i.metadata) (writable : s.writable = true) :
    s.writeIssuer kind i' = .ok (s.withIssuerStatus (.ofIssuer kind i) i i'.status) := by
  have hkey : IssuerKey.ofIssuer kind i' = .ofIssuer kind i := by
    rw [IssuerKey.ofIssuer, IssuerKey.ofIssuer, hmeta]
  rw [writeIssuer, if_pos writable, hkey, stored, replaceStatus_of_stored hmeta]
  rfl

end MemoryStore

/-- A write over what is stored is accepted by a world that accepts such writes. -/
theorem World.writeIssuer_of_stored {ω : Type} {w : World ω} {kind : IssuerKind} {i i' : Issuer}
    (stored : w.store.issuers.get? (.ofIssuer kind i) = some i) (hmeta : i'.metadata = i.metadata)
    (writable : w.store.writable = true) (faultless : w.faults.lookup (.writeIssuer kind) = none) :
    w.writeIssuer kind i'
      = (.ok (),
        { w with store := w.store.withIssuerStatus (.ofIssuer kind i) i i'.status }) := by
  rw [writeIssuer, guarded, faultless, MemoryStore.writeIssuer_of_stored stored hmeta writable]
  rfl

end CertIssuer

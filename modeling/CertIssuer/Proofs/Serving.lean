import CertIssuer.Proofs.Plans
import CertIssuer.Proofs.Versions
import CertIssuer.Simulation.World

/-!
How a world serves the accesses of a plan: what each of them was answered from the store, and what it
left of the store. A run serves its accesses one after the other, and only accepted writes change
the store.
-/

namespace CertIssuer

variable {σ ω α : Type}

/-! ### One access -/

/-- The store `s` serves an access and is `s'` afterwards, where the operations in `faults` may fail
as it says there. -/
inductive Served (faults : List (StoreMethod × StoreError)) :
    MemoryStore → Access σ → MemoryStore → Prop
  | readRequest {s : MemoryStore} {key : ObjectKey} {r : CertificateRequest}
      (h : s.requests.get? key = some r) : Served faults s (.readRequest key (.ok r)) s
  | missedRequest {s : MemoryStore} {key : ObjectKey} {e : StoreError}
      (h : s.requests.get? key = none) : Served faults s (.readRequest key (.error e)) s
  | unreadRequest {s : MemoryStore} {key : ObjectKey} {e : StoreError}
      (h : faults.lookup .readRequest = some e) : Served faults s (.readRequest key (.error e)) s
  | readIssuer {s : MemoryStore} {key : IssuerKey} {answer : Except StoreError Issuer} :
      Served faults s (.readIssuer key answer) s
  | readSecret {s : MemoryStore} {key : ObjectKey} {answer : Except StoreError Secret} :
      Served faults s (.readSecret key answer) s
  | wroteRequest {s s' : MemoryStore} {r : CertificateRequest} (h : s.writeRequest r = .ok s') :
      Served faults s (.writeRequest r (.ok ())) s'
  | unwrittenRequest {s : MemoryStore} {r : CertificateRequest} {e : StoreError} :
      Served faults s (.writeRequest r (.error e)) s
  | wroteIssuer {s s' : MemoryStore} {kind : IssuerKind} {i : Issuer}
      (h : s.writeIssuer kind i = .ok s') : Served faults s (.writeIssuer kind i (.ok ())) s'
  | unwrittenIssuer {s : MemoryStore} {kind : IssuerKind} {i : Issuer} {e : StoreError} :
      Served faults s (.writeIssuer kind i (.error e)) s
  | openSigner {s : MemoryStore} {serviceKey : Bytes} {answer : Except (List String) σ} :
      Served faults s (.openSigner serviceKey answer) s
  | sign {s : MemoryStore} {signer : σ} {r : SignRequest}
      {answer : Except SignError SignResponse} : Served faults s (.sign signer r answer) s

/-! ### Several accesses -/

/-- The store `s` serves accesses one after the other and is `s'` afterwards. -/
inductive Trace (faults : List (StoreMethod × StoreError)) :
    MemoryStore → List (Access σ) → MemoryStore → Prop
  | nil {s : MemoryStore} : Trace faults s [] s
  | cons {s s₁ s' : MemoryStore} {access : Access σ} {l : List (Access σ)}
      (served : Served faults s access s₁) (rest : Trace faults s₁ l s') :
      Trace faults s (access :: l) s'

namespace Trace

variable {faults : List (StoreMethod × StoreError)} {s s' : MemoryStore} {l l₁ l₂ : List (Access σ)}

theorem split (h : Trace faults s (l₁ ++ l₂) s') :
    ∃ s₁, Trace faults s l₁ s₁ ∧ Trace faults s₁ l₂ s' := by
  induction l₁ generalizing s with
  | nil => exact ⟨s, .nil, h⟩
  | cons access l₁ ih =>
    cases h with
    | cons served rest =>
      obtain ⟨s₁, h₁, h₂⟩ := ih rest
      exact ⟨s₁, .cons served h₁, h₂⟩

end Trace

/-! ### Worlds -/

namespace World

variable {w : World ω}

/-- A write is carried out by the store, or fails and changes nothing. -/
theorem written_guarded (w : World ω) (method : StoreMethod)
    (answer : Except StoreError MemoryStore) :
    (∃ store, answer = .ok store
        ∧ w.written (w.guarded method answer) = (.ok (), { w with store }))
      ∨ ∃ e, w.written (w.guarded method answer) = (.error e, w) := by
  unfold guarded
  split
  · next e _ => exact .inr ⟨e, rfl⟩
  · cases answer with
    | ok store => exact .inl ⟨store, rfl, rfl⟩
    | error e => exact .inr ⟨e, rfl⟩

/-- A request is read as it is stored. It cannot be read when there is none, or when reads fail. -/
theorem served_readRequest (w : World ω) (key : ObjectKey) :
    Served w.faults w.store (.readRequest key (w.readRequest key) : Access σ) w.store := by
  unfold readRequest guarded
  split
  · next e h => exact .unreadRequest h
  · unfold MemoryStore.readRequest
    cases h : w.store.requests.get? key with
    | none => exact .missedRequest h
    | some r => exact .readRequest h

/-- A world serves the access of an operation, if it makes one, and otherwise leaves its store. -/
theorem served_handle (a : Authority σ ω) (op : Op σ) (w : World ω) :
    (op.accesses ((handler a).handle op w).1 = [] ∧ ((handler a).handle op w).2.store = w.store)
      ∨ ∃ access, op.accesses ((handler a).handle op w).1 = [access]
        ∧ Served w.faults w.store access ((handler a).handle op w).2.store := by
  cases op with
  | readRequest key => exact .inr ⟨_, rfl, w.served_readRequest key⟩
  | readIssuer key => exact .inr ⟨_, rfl, .readIssuer⟩
  | readSecret key => exact .inr ⟨_, rfl, .readSecret⟩
  | writeRequest r =>
    refine .inr ⟨_, rfl, ?_⟩
    change Served _ _ (.writeRequest r (w.writeRequest r).1) (w.writeRequest r).2.store
    rcases w.written_guarded .writeRequest (w.store.writeRequest r) with ⟨store, h, hw⟩ | ⟨e, hw⟩
    · rw [writeRequest, hw]
      exact .wroteRequest h
    · rw [writeRequest, hw]
      exact .unwrittenRequest
  | writeIssuer kind i =>
    refine .inr ⟨_, rfl, ?_⟩
    change Served _ _ (.writeIssuer kind i (w.writeIssuer kind i).1) (w.writeIssuer kind i).2.store
    rcases w.written_guarded (.writeIssuer kind) (w.store.writeIssuer kind i)
      with ⟨store, h, hw⟩ | ⟨e, hw⟩
    · rw [writeIssuer, hw]
      exact .wroteIssuer h
    · rw [writeIssuer, hw]
      exact .unwrittenIssuer
  | openSigner serviceKey => exact .inr ⟨_, rfl, .openSigner⟩
  | sign signer r => exact .inr ⟨_, rfl, .sign⟩
  | now | note _ | tally _ => exact .inl ⟨rfl, rfl⟩

/-- No operation changes which operations fail, or what time it is. -/
theorem surroundings_handle (a : Authority σ ω) (op : Op σ) (w : World ω) :
    ((handler a).handle op w).2.faults = w.faults
      ∧ ((handler a).handle op w).2.now = w.now := by
  cases op with
  | writeRequest r =>
    change (w.writeRequest r).2.faults = w.faults ∧ (w.writeRequest r).2.now = w.now
    rcases w.written_guarded .writeRequest (w.store.writeRequest r) with ⟨_, _, hw⟩ | ⟨_, hw⟩ <;>
      rw [writeRequest, hw] <;> exact ⟨rfl, rfl⟩
  | writeIssuer kind i =>
    change (w.writeIssuer kind i).2.faults = w.faults ∧ (w.writeIssuer kind i).2.now = w.now
    rcases w.written_guarded (.writeIssuer kind) (w.store.writeIssuer kind i)
      with ⟨_, _, hw⟩ | ⟨_, hw⟩ <;> rw [writeIssuer, hw] <;> exact ⟨rfl, rfl⟩
  | readRequest _ | readIssuer _ | readSecret _ | now | openSigner _ | sign _ _ | note _ | tally _ =>
    exact ⟨rfl, rfl⟩

/-- A world serves every run. -/
theorem trace_run (a : Authority σ ω) (p : Plan σ α) (w : World ω) :
    Trace w.faults w.store (p.accesses (handler a) w) (w.run a p).2.store := by
  induction p generalizing w with
  | done _ => exact .nil
  | ask op next ih =>
    have hrest := ih ((handler a).handle op w).1 ((handler a).handle op w).2
    rw [(surroundings_handle a op w).1] at hrest
    rcases served_handle a op w with ⟨hsilent, hstore⟩ | ⟨access, haccess, served⟩
    · rw [hstore] at hrest
      rw [Plan.accesses, hsilent]
      exact hrest
    · rw [Plan.accesses, haccess]
      exact .cons served hrest

end World

/-! ### What an access does to the requests -/

variable {faults : List (StoreMethod × StoreError)} {s s' : MemoryStore} {access : Access σ}

/-- Serving an access is at most one change. -/
theorem Served.touched (h : Served faults s access s') (keyed : s.Keyed) : s.Touched s' := by
  cases h with
  | wroteRequest h => exact .of_writeRequest keyed h
  | wroteIssuer h =>
    obtain ⟨o, _, _, rfl⟩ := MemoryStore.writeIssuer_eq_ok h
    exact .of_same rfl (.inr rfl)
  | readRequest _ | missedRequest _ | unreadRequest _ | readIssuer | readSecret | unwrittenRequest
  | unwrittenIssuer | openSigner | sign => exact .of_same rfl (.inl rfl)

/-- Only an accepted write of a request changes the requests. -/
theorem Served.requests (h : Served faults s access s') : s'.requests = s.requests
    ∨ ∃ r, access = .writeRequest r (.ok ()) ∧ s.writeRequest r = .ok s' := by
  cases h with
  | wroteRequest h => exact .inr ⟨_, rfl, h⟩
  | wroteIssuer h =>
    obtain ⟨o, _, _, rfl⟩ := MemoryStore.writeIssuer_eq_ok h
    exact .inl rfl
  | readRequest _ | missedRequest _ | unreadRequest _ | readIssuer | readSecret | unwrittenRequest
  | unwrittenIssuer | openSigner | sign => exact .inl rfl

/-- Accesses without a write of a request leave the requests alone. -/
theorem Trace.requests_eq {l : List (Access σ)} (h : Trace faults s l s')
    (unwritten : ∀ r written, .writeRequest r written ∉ l) : s'.requests = s.requests := by
  induction h with
  | nil => rfl
  | cons served _ ih =>
    rw [ih fun r written hmem => unwritten r written (List.mem_cons_of_mem _ hmem)]
    rcases served.requests with hsame | ⟨r, rfl, _⟩
    · exact hsame
    · exact absurd List.mem_cons_self (unwritten r (.ok ()))

/-- An operation is at most one change. -/
theorem World.touched_handle (a : Authority σ ω) (op : Op σ) (w : World ω)
    (keyed : w.store.Keyed) : w.store.Touched ((handler a).handle op w).2.store := by
  rcases served_handle a op w with ⟨_, hstore⟩ | ⟨access, _, served⟩
  · rw [hstore]
    exact .of_same rfl (.inl rfl)
  · exact served.touched keyed

/-! ### Sample objects -/

namespace Sample

/-- How the sample request is reconciled. -/
def settings : RequestReconcile.Settings := ⟨"cluster", true⟩

/-- A condition that is true. -/
def condition (type : String) : Condition := ⟨type, .yes, none, none, none⟩

/-- A request with these conditions, certificate and failure time. -/
def request (conditions : List Condition) (certificate : Bytes) (failureTime : Option String) :
    CertificateRequest where
  metadata := { Metadata.empty with ns := some "default", name := some "web" }
  spec :=
    { request := Text.encodeUtf8
        "-----BEGIN R-----\nMBswEQIBADAAMAgwAwYBKgMBAKAAMAMGASoDAQA=\n-----END R-----\n"
      duration := none
      issuerRef := ⟨"prod", some "OriginIssuer", none⟩
      isCA := false
      usages := [] }
  status := some ⟨conditions, certificate, [], failureTime⟩

/-- The key of the sample request. -/
def key : ObjectKey := ⟨"default", "web"⟩

/-- The issuer of the sample request. -/
def issuer : Issuer where
  metadata := { Metadata.empty with ns := some "default", name := some "prod" }
  spec := ⟨.rsa, ⟨"service-key", "key"⟩⟩
  status := some ⟨[condition Condition.ready]⟩

/-- The service key of the issuer. -/
def secret : Secret := .single "default" "service-key" "key" [118, 49]

end Sample
end CertIssuer

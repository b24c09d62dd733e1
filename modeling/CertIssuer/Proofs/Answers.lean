import CertIssuer.Proofs.Versions
import CertIssuer.Proofs.Plans
import CertIssuer.Simulation.World

/-!
What a world answers, exactly. Every access is answered from the world as it is at that moment, and
the log plays no part in it, so a world determines the accesses of a run and, up to the log, the
world after it.
-/

namespace CertIssuer

variable {σ ω α : Type}

/-! ### Signing calls -/

/-- A signing call: who was asked, for what, and the answer. -/
structure SignCall (σ : Type) where
  signer : σ
  request : SignRequest
  answer : Except SignError SignResponse

/-- Whether a call ended in the one error after which the authority may have issued the certificate
all the same: it could not be stored. -/
def SignCall.isTransient (call : SignCall σ) : Bool :=
  match call.answer with
  | .error (.api e) => e.code = ApiError.databaseWrite
  | _ => false

/-- The signing call that an access is, if it is one. -/
def Access.call? : Access σ → Option (SignCall σ)
  | .sign signer request answer => some ⟨signer, request, answer⟩
  | _ => none

/-- The signing calls among accesses. -/
def calls (l : List (Access σ)) : List (SignCall σ) := l.filterMap Access.call?

@[simp] theorem calls_nil : calls ([] : List (Access σ)) = [] := rfl

@[simp] theorem calls_readRequest {key : ObjectKey} {answer : Except StoreError CertificateRequest}
    {l : List (Access σ)} : calls (.readRequest key answer :: l) = calls l := rfl

theorem mem_calls {l : List (Access σ)} {signer : σ} {request : SignRequest}
    {answer : Except SignError SignResponse} :
    (⟨signer, request, answer⟩ : SignCall σ) ∈ calls l ↔ .sign signer request answer ∈ l := by
  constructor
  · intro h
    obtain ⟨x, hx, hcall⟩ := List.mem_filterMap.mp h
    cases x with
    | sign _ _ _ =>
      cases hcall
      exact hx
    | readRequest _ _ | readIssuer _ _ | readSecret _ _ | writeRequest _ _ | writeIssuer _ _ _
    | openSigner _ _ => cases hcall
  · intro h
    exact List.mem_filterMap.mpr ⟨_, h, rfl⟩

/-- A call that failed is transient when its error may go away. -/
theorem SignCall.isTransient_of_error {call : SignCall σ} {e : SignError}
    (h : call.answer = .error e) :
    call.isTransient = true ↔ (ProvisionError.sign e).classify = .retryable := by
  unfold isTransient ProvisionError.classify
  rw [h]
  cases e with
  | api e => by_cases hcode : e.code = ApiError.databaseWrite <;>
      simp [ProvisionError.signError?, SignError.apiError?, hcode]
  | transport _ | invalidResponse _ => simp [ProvisionError.signError?, SignError.apiError?]

/-! ### The store after a write -/

namespace MemoryStore

variable {s : MemoryStore} {r r' : CertificateRequest} {status : Option RequestStatus}

/-- The store after an accepted status write of a stored request. -/
def withStatus (s : MemoryStore) (r : CertificateRequest) (status : Option RequestStatus) :
    MemoryStore :=
  { s with
    requests := s.requests.insert r.key ({ r with status := status }.atVersion s.stamp)
    version := s.nextVersion
    writes := s.writes + 1 }

/-- The request carries its new status, at a new version. -/
theorem get?_withStatus (s : MemoryStore) (status : Option RequestStatus) {key : ObjectKey}
    (h : r.key = key) : (s.withStatus r status).requests.get? key
      = some ({ r with status := status }.atVersion s.stamp) := by
  rw [← h]
  exact Table.get?_insert_self ..

theorem get?_withStatus_of_ne {key : ObjectKey} (h : key ≠ r.key) :
    (s.withStatus r status).requests.get? key = s.requests.get? key := by
  rw [withStatus, Table.get?_insert, if_neg h]

/-- A copy is not older than the object it is a copy of. -/
theorem replaceStatus_of_stored {σ τ : Type} {resource name version : String}
    {o copy : Object σ τ} (hmeta : copy.metadata = o.metadata) :
    replaceStatus resource name version (some o) copy
      = .ok ({ o with status := copy.status }.atVersion version) := by
  refine replaceStatus_of_current ?_
  rw [hmeta]
  unfold isOutdated
  split
  · next version h => simp [h]
  · rfl

/-- A write over what is stored is accepted as long as writes are. -/
theorem writeRequest_of_stored (stored : s.requests.get? r.key = some r)
    (hmeta : r'.metadata = r.metadata) (writable : s.writable = true) :
    s.writeRequest r' = .ok (s.withStatus r r'.status) := by
  have hkey : r'.key = r.key := by rw [Object.key, Object.key, hmeta]
  rw [writeRequest, if_pos writable, hkey, stored, replaceStatus_of_stored hmeta]
  rfl

theorem writeRequest_of_unwritable (h : s.writable = false) :
    s.writeRequest r = .error (.unavailable "status writes are disabled") := by
  rw [writeRequest, h]
  rfl

/-- Whatever write of a stored copy is accepted, it replaces the status. -/
theorem withStatus_of_writeRequest {s' : MemoryStore} (stored : s.requests.get? r.key = some r)
    (hmeta : r'.metadata = r.metadata) (h : s.writeRequest r' = .ok s') :
    s' = s.withStatus r r'.status := by
  have hkey : r'.key = r.key := by rw [Object.key, Object.key, hmeta]
  obtain ⟨o, hget, _, rfl⟩ := writeRequest_eq_ok h
  rw [hkey, stored] at hget
  cases hget
  rw [hkey]
  rfl

theorem Keyed.withStatus (keyed : s.Keyed) : (s.withStatus r status).Keyed := by
  intro key o ho
  by_cases h : key = r.key
  · rw [get?_withStatus s status h.symm] at ho
    cases ho
    exact h.symm
  · rw [get?_withStatus_of_ne h] at ho
    exact keyed key o ho

end MemoryStore

/-! ### Answers -/

namespace World

/-- The world without its log. -/
def unlogged (w : World ω) : World ω := { w with log := [] }

/-- Status writes of requests are accepted. -/
structure Accepting (w : World ω) : Prop where
  writable : w.store.writable = true
  faultless : w.faults.lookup .writeRequest = none

instance (w : World ω) : Decidable w.Accepting :=
  decidable_of_iff (w.store.writable = true ∧ w.faults.lookup .writeRequest = none)
    ⟨fun h => ⟨h.1, h.2⟩, fun h => ⟨h.1, h.2⟩⟩

/-- The world gives an access its answer, and is `w'` afterwards, apart from the log. -/
def Answers (a : Authority σ ω) (w : World ω) : Access σ → World ω → Prop
  | .readRequest key answer, w' => w.readRequest key = answer ∧ w' = w
  | .readIssuer key answer, w' => w.readIssuer key = answer ∧ w' = w
  | .readSecret key answer, w' => w.readSecret key = answer ∧ w' = w
  | .writeRequest r answer, w' => w.writeRequest r = (answer, w')
  | .writeIssuer kind i answer, w' => w.writeIssuer kind i = (answer, w')
  | .openSigner serviceKey answer, w' =>
    (a.openSigner serviceKey w.authority).1 = answer
      ∧ w' = { w with authority := (a.openSigner serviceKey w.authority).2 }
  | .sign signer r answer, w' =>
    (a.sign signer r w.authority).1.1 = answer
      ∧ w' = { w with authority := (a.sign signer r w.authority).2 }

/-- The world gives accesses their answers, one after the other. -/
def AnswersAll (a : Authority σ ω) : World ω → List (Access σ) → World ω → Prop
  | w, [], w' => w' = w
  | w, x :: l, w' => ∃ w₁, w.Answers a x w₁ ∧ AnswersAll a w₁ l w'

variable {a : Authority σ ω} {w w' : World ω} {x : Access σ} {l l₁ l₂ : List (Access σ)}

/-! ### Reads -/

/-- A stored request is read as it is, unless reads fail. -/
theorem readRequest_of_stored {key : ObjectKey} {r : CertificateRequest}
    (stored : w.store.requests.get? key = some r)
    (readable : w.faults.lookup .readRequest = none) : w.readRequest key = .ok r := by
  rw [readRequest, guarded, readable, MemoryStore.readRequest, stored]
  rfl

theorem readIssuer_of_stored {key : IssuerKey} {i : Issuer}
    (stored : w.store.issuers.get? key = some i)
    (readable : w.faults.lookup (.readIssuer key.kind) = none) : w.readIssuer key = .ok i := by
  rw [readIssuer, guarded, readable, MemoryStore.readIssuer, stored]
  rfl

theorem readSecret_of_stored {key : ObjectKey} {x : Secret}
    (stored : w.store.secrets.get? key = some x)
    (readable : w.faults.lookup .readSecret = none) : w.readSecret key = .ok x := by
  rw [readSecret, guarded, readable, MemoryStore.readSecret, stored]
  rfl

/-- What was read is stored. -/
theorem stored_of_guarded {method : StoreMethod} {resource name : String} {o : Option α} {b : α}
    (h : w.guarded method (MemoryStore.found resource name o) = .ok b) : o = some b := by
  unfold guarded at h
  split at h
  · cases h
  · cases o with
    | none => cases h
    | some _ =>
      cases h
      rfl

theorem stored_of_readRequest {key : ObjectKey} {r : CertificateRequest}
    (h : w.readRequest key = .ok r) : w.store.requests.get? key = some r := stored_of_guarded h

theorem stored_of_readIssuer {key : IssuerKey} {i : Issuer} (h : w.readIssuer key = .ok i) :
    w.store.issuers.get? key = some i := stored_of_guarded h

/-! ### Runs -/

theorem unlogged_written (w : World ω) (answer : Except StoreError MemoryStore) :
    w.unlogged.written answer = ((w.written answer).1, (w.written answer).2.unlogged) := by
  cases answer <;> rfl

/-- A run gets its answers from the world. -/
theorem answersAll_run (a : Authority σ ω) (p : Plan σ α) (w : World ω) :
    w.unlogged.AnswersAll a (p.accesses (handler a) w) (w.run a p).2.unlogged := by
  induction p generalizing w with
  | done _ => rfl
  | ask op next ih =>
    have rest := ih ((handler a).handle op w).1 ((handler a).handle op w).2
    cases op with
    | readRequest _ | readIssuer _ | readSecret _ => exact ⟨_, ⟨rfl, rfl⟩, rest⟩
    | writeRequest r => exact ⟨_, unlogged_written w _, rest⟩
    | writeIssuer kind i => exact ⟨_, unlogged_written w _, rest⟩
    | openSigner _ | sign _ _ => exact ⟨_, ⟨rfl, rfl⟩, rest⟩
    | now | note _ | tally _ => exact rest

theorem AnswersAll.split (h : w.AnswersAll a (l₁ ++ l₂) w') :
    ∃ w₁, w.AnswersAll a l₁ w₁ ∧ w₁.AnswersAll a l₂ w' := by
  induction l₁ generalizing w with
  | nil => exact ⟨w, rfl, h⟩
  | cons x l₁ ih =>
    obtain ⟨w₁, hx, hrest⟩ := h
    obtain ⟨w₂, h₁, h₂⟩ := ih hrest
    exact ⟨w₂, ⟨w₁, hx, h₁⟩, h₂⟩

theorem AnswersAll.append {w₁ : World ω} (h : w.AnswersAll a l₁ w₁) (h' : w₁.AnswersAll a l₂ w') :
    w.AnswersAll a (l₁ ++ l₂) w' := by
  induction l₁ generalizing w with
  | nil =>
    obtain rfl : w₁ = w := h
    exact h'
  | cons x l₁ ih =>
    obtain ⟨w₂, hx, hrest⟩ := h
    exact ⟨w₂, hx, ih hrest⟩

/-! ### What accesses leave of a world -/

/-- Only writes change the store, and nothing changes which operations fail. -/
theorem Answers.store_eq (h : w.Answers a x w') (quiet : x.isWrite = false) :
    w'.store = w.store ∧ w'.faults = w.faults := by
  cases x with
  | readRequest _ _ | readIssuer _ _ | readSecret _ _ | openSigner _ _ | sign _ _ _ =>
    rw [h.2]
    exact ⟨rfl, rfl⟩
  | writeRequest _ _ | writeIssuer _ _ _ => cases quiet

theorem AnswersAll.store_eq (h : w.AnswersAll a l w') (quiet : ∀ x ∈ l, x.isWrite = false) :
    w'.store = w.store ∧ w'.faults = w.faults := by
  induction l generalizing w with
  | nil =>
    rw [h]
    exact ⟨rfl, rfl⟩
  | cons x l ih =>
    obtain ⟨w₁, hx, hrest⟩ := h
    obtain ⟨hstore, hfaults⟩ := hx.store_eq (quiet x List.mem_cons_self)
    obtain ⟨hstore', hfaults'⟩ := ih hrest fun y hy => quiet y (List.mem_cons_of_mem _ hy)
    exact ⟨hstore'.trans hstore, hfaults'.trans hfaults⟩

/-- A write over a stored copy is accepted and replaces its status, or it changes nothing, which
takes a world that does not accept writes. -/
theorem Answers.store_of_write {r r' : CertificateRequest} {written : Except StoreError Unit}
    (h : w.Answers a (.writeRequest r' written) w') (stored : w.store.requests.get? r.key = some r)
    (hmeta : r'.metadata = r.metadata) :
    w'.store = w.store.withStatus r r'.status ∨ (w'.store = w.store ∧ ¬ w.Accepting) := by
  change w.writeRequest r' = (written, w') at h
  unfold writeRequest guarded at h
  split at h
  · next e hfault =>
    cases h
    refine .inr ⟨rfl, fun accepting => ?_⟩
    rw [accepting.faultless] at hfault
    cases hfault
  · cases hwrite : w.store.writeRequest r' with
    | ok s' =>
      rw [hwrite] at h
      cases h
      exact .inl (MemoryStore.withStatus_of_writeRequest stored hmeta hwrite)
    | error e =>
      rw [hwrite] at h
      cases h
      refine .inr ⟨rfl, fun accepting => ?_⟩
      rw [MemoryStore.writeRequest_of_stored stored hmeta accepting.writable] at hwrite
      cases hwrite

end World
end CertIssuer

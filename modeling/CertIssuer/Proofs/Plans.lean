import CertIssuer.Reconcile.Plan

/-!
What a plan can do, whatever the world answers. An access is an operation on the store or on the
authority together with its answer, and a path of a plan is a list of accesses with which the plan
can be carried out, along with the value it ends with. The log, the clock and the counters answer
nothing that an access would show.

A run in a world takes one of the paths, so what holds on every path holds of every run, and of
every interleaving of runs.
-/

namespace CertIssuer

/-- An operation on the store or on the authority, and its answer. -/
inductive Access (σ : Type) where
  | readRequest (key : ObjectKey) (answer : Except StoreError CertificateRequest)
  | readIssuer (key : IssuerKey) (answer : Except StoreError Issuer)
  | readSecret (key : ObjectKey) (answer : Except StoreError Secret)
  | writeRequest (request : CertificateRequest) (answer : Except StoreError Unit)
  | writeIssuer (kind : IssuerKind) (issuer : Issuer) (answer : Except StoreError Unit)
  | openSigner (serviceKey : Bytes) (answer : Except (List String) σ)
  | sign (signer : σ) (request : SignRequest) (answer : Except SignError SignResponse)

namespace Access

variable {σ : Type}

/-- Whether an access is a status write. -/
def isWrite : Access σ → Bool
  | .writeRequest .. | .writeIssuer .. => true
  | _ => false

/-- Whether an access is a status write that failed. -/
def isFailedWrite : Access σ → Bool
  | .writeRequest _ (.error _) | .writeIssuer _ _ (.error _) => true
  | _ => false

/-- Whether an access is a status write or a signing call, accepted or not. -/
def isAttempt : Access σ → Bool
  | .writeRequest .. | .writeIssuer .. | .sign .. => true
  | _ => false

theorem isWrite_of_isFailedWrite {x : Access σ} (h : x.isFailedWrite = true) :
    x.isWrite = true := by
  cases x with
  | writeRequest _ _ | writeIssuer _ _ _ => rfl
  | readRequest _ _ | readIssuer _ _ | readSecret _ _ | openSigner _ _ | sign _ _ _ => cases h

end Access

/-- The access that an operation with this answer makes. -/
def Op.accesses {σ : Type} : (op : Op σ) → op.Answer → List (Access σ)
  | .readRequest key, answer => [.readRequest key answer]
  | .readIssuer key, answer => [.readIssuer key answer]
  | .readSecret key, answer => [.readSecret key answer]
  | .writeRequest r, answer => [.writeRequest r answer]
  | .writeIssuer kind i, answer => [.writeIssuer kind i answer]
  | .openSigner serviceKey, answer => [.openSigner serviceKey answer]
  | .sign signer r, answer => [.sign signer r answer]
  | .now, _ | .note _, _ | .tally _, _ => []

/-- Every operation can be answered. -/
theorem Op.exists_answer {σ : Type} (op : Op σ) : Nonempty op.Answer := by
  cases op with
  | readRequest _ | readIssuer _ | readSecret _ | writeRequest _ | writeIssuer _ _ =>
    exact ⟨.error (.unavailable "")⟩
  | now => exact ⟨(0 : Int)⟩
  | openSigner _ => exact ⟨.error []⟩
  | sign _ _ => exact ⟨.error (.invalidResponse "")⟩
  | note _ | tally _ => exact ⟨()⟩

namespace Plan

variable {σ α β : Type}

/-! ### Paths -/

/-- The plan can be carried out with these accesses, and then ends with this value. -/
def Path : Plan σ α → List (Access σ) → α → Prop
  | .done a, l, b => l = [] ∧ b = a
  | .ask op next, l, b => ∃ answer rest, l = op.accesses answer ++ rest ∧ (next answer).Path rest b

@[simp] theorem path_done {a b : α} {l : List (Access σ)} :
    (done a : Plan σ α).Path l b ↔ l = [] ∧ b = a := Iff.rfl

@[simp] theorem path_fail {ε : Type} {e : ε} {l : List (Access σ)} {b : Except ε α} :
    (fail e : Plan σ (Except ε α)).Path l b ↔ l = [] ∧ b = .error e := Iff.rfl

@[simp] theorem path_perform {op : Op σ} {l : List (Access σ)} {b : op.Answer} :
    (perform op).Path l b ↔ l = op.accesses b := by
  constructor
  · rintro ⟨answer, rest, rfl, rfl, rfl⟩
    simp
  · rintro rfl
    exact ⟨b, [], by simp, rfl, rfl⟩

@[simp] theorem path_note {event : Log.Event} {l : List (Access σ)} {u : Unit} :
    (note event : Plan σ Unit).Path l u ↔ l = [] := path_perform

@[simp] theorem path_tally {m : Measurement} {l : List (Access σ)} {u : Unit} :
    (tally m : Plan σ Unit).Path l u ↔ l = [] := path_perform

/-- A path of a bound plan is a path of the first part, followed by one of the second. -/
theorem path_bind {p : Plan σ α} {f : α → Plan σ β} {l : List (Access σ)} {b : β} :
    (p.bind f).Path l b ↔ ∃ l₁ a l₂, l = l₁ ++ l₂ ∧ p.Path l₁ a ∧ (f a).Path l₂ b := by
  induction p generalizing l with
  | done a =>
    constructor
    · intro h
      exact ⟨[], a, l, rfl, ⟨rfl, rfl⟩, h⟩
    · rintro ⟨_, _, l₂, rfl, ⟨rfl, rfl⟩, h⟩
      exact h
  | ask op next ih =>
    constructor
    · rintro ⟨answer, rest, rfl, h⟩
      obtain ⟨l₁, a, l₂, rfl, h₁, h₂⟩ := (ih answer).mp h
      exact ⟨_, a, l₂, (List.append_assoc ..).symm, ⟨answer, l₁, rfl, h₁⟩, h₂⟩
    · rintro ⟨_, a, l₂, rfl, ⟨answer, l₁, rfl, h₁⟩, h₂⟩
      exact ⟨answer, l₁ ++ l₂, List.append_assoc .., (ih answer).mpr ⟨l₁, a, l₂, rfl, h₁, h₂⟩⟩

/-- A first part without accesses only hands its value on. -/
theorem path_of_silent {p : Plan σ α} {f : α → Plan σ β} {l : List (Access σ)} {b : β}
    (silent : ∀ l₁ a, p.Path l₁ a → l₁ = []) (h : (p.bind f).Path l b) : ∃ a, (f a).Path l b := by
  obtain ⟨l₁, a, l₂, rfl, h₁, h₂⟩ := path_bind.mp h
  rw [silent l₁ a h₁]
  exact ⟨a, h₂⟩

theorem path_note_bind {event : Log.Event} {f : Unit → Plan σ β} {l : List (Access σ)} {b : β}
    (h : ((note event).bind f).Path l b) : (f ()).Path l b :=
  (path_of_silent (fun _ _ => path_note.mp) h).elim fun _ => id

theorem path_tally_bind {m : Measurement} {f : Unit → Plan σ β} {l : List (Access σ)} {b : β}
    (h : ((tally m).bind f).Path l b) : (f ()).Path l b :=
  (path_of_silent (fun _ _ => path_tally.mp) h).elim fun _ => id

theorem path_now_bind {f : Instant → Plan σ β} {l : List (Access σ)} {b : β}
    (h : ((perform .now).bind f).Path l b) : ∃ now, (f now).Path l b :=
  path_of_silent (fun _ _ => path_perform.mp) h

/-- Every plan can be carried out. -/
theorem exists_path (p : Plan σ α) : ∃ l b, p.Path l b := by
  induction p with
  | done a => exact ⟨[], a, rfl, rfl⟩
  | ask op next ih =>
    obtain ⟨answer⟩ := op.exists_answer
    obtain ⟨l, b, h⟩ := ih answer
    exact ⟨_, b, answer, l, rfl, h⟩

/-! ### Writes that a plan may still make -/

/-- Some way of carrying the plan out writes the status of this request. -/
def MayWrite (p : Plan σ α) (r : CertificateRequest) : Prop :=
  ∃ l b answer, p.Path l b ∧ .writeRequest r answer ∈ l

/-- The operation at hand is one the plan may make. -/
theorem mayWrite_of_ask {r : CertificateRequest}
    {next : (Op.writeRequest r : Op σ).Answer → Plan σ α} :
    (ask (.writeRequest r) next).MayWrite r := by
  obtain ⟨l, b, h⟩ := exists_path (next (.ok ()))
  exact ⟨_, b, .ok (), ⟨.ok (), l, rfl, h⟩, by simp [Op.accesses]⟩

/-- What may be written after an answer may be written before it. -/
theorem MayWrite.of_next {op : Op σ} {next : op.Answer → Plan σ α} {answer : op.Answer}
    {r : CertificateRequest} (h : (next answer).MayWrite r) : (ask op next).MayWrite r := by
  obtain ⟨l, b, written, path, mem⟩ := h
  exact ⟨_, b, written, ⟨answer, l, rfl, path⟩, List.mem_append_right _ mem⟩

/-! ### Runs -/

/-- The accesses of a run. -/
def accesses {ω : Type} (h : Handler σ ω) : Plan σ α → ω → List (Access σ)
  | .done _, _ => []
  | .ask op next, w =>
    let answered := h.handle op w
    op.accesses answered.1 ++ (next answered.1).accesses h answered.2

/-- A run takes a path of its plan. -/
theorem path_run {ω : Type} (h : Handler σ ω) (p : Plan σ α) (w : ω) :
    p.Path (p.accesses h w) (p.run h w).1 := by
  induction p generalizing w with
  | done a => exact ⟨rfl, rfl⟩
  | ask op next ih => exact ⟨_, _, rfl, ih _ _⟩

end Plan
end CertIssuer

import CertIssuer.Proofs.FibonacciDelays
import CertIssuer.Startup

/-!
Which delays a registry gives, for whatever settings the environment holds. The greatest delay
bounds every delay but the first one of an object, which is the least delay as it was set: the two
settings come from variables of their own, and nothing compares them.
-/

namespace CertIssuer

namespace BackoffRegistry

variable {key : String}

/-! ### Calls under keys -/

/-- A call under a key. -/
abbrev Call := String × Backoff.Call

/-- The registry after a call. -/
def apply (r : BackoffRegistry) (call : Call) : BackoffRegistry :=
  match call.2 with
  | .next => (r.next call.1).2
  | .reset => r.reset call.1

/-- The registry after calls. -/
def run (r : BackoffRegistry) (calls : List Call) : BackoffRegistry := calls.foldl apply r

/-- What was asked under a key. -/
def own (key : String) (calls : List Call) : List Backoff.Call :=
  calls.filterMap fun call => if call.1 = key then some call.2 else none

theorem own_replicate (key : String) (n : Nat) (call : Backoff.Call) :
    own key (List.replicate n (key, call)) = List.replicate n call := by
  simp [own]

theorem own_concat_self (key : String) (calls : List Call) (call : Backoff.Call) :
    own key (calls ++ [(key, call)]) = own key calls ++ [call] := by
  simp [own]

theorem own_concat_of_ne {k : String} (h : k ≠ key) (calls : List Call) (call : Backoff.Call) :
    own k (calls ++ [(key, call)]) = own k calls := by
  simp [own, h.symm]

/-- The registry keeps its bounds, and has for each key what the calls under that key make of fresh
delays. -/
structure Follows (least greatest : UInt64) (calls : List Call) (r : BackoffRegistry) : Prop where
  least_eq : r.least = least
  greatest_eq : r.greatest = greatest
  state_eq : ∀ key, r.state key = (Backoff.new least greatest).run (own key calls)

theorem follows_new (least greatest : UInt64) : Follows least greatest [] (new least greatest) :=
  ⟨rfl, rfl, fun _ => rfl⟩

/-- A call changes what its own key has, and nothing else. -/
theorem Follows.apply {least greatest : UInt64} {calls : List Call} {r : BackoffRegistry}
    (h : Follows least greatest calls r) (call : Call) :
    Follows least greatest (calls ++ [call]) (r.apply call) := by
  obtain ⟨key, call⟩ := call
  have bounds : (r.apply (key, call)).least = r.least
      ∧ (r.apply (key, call)).greatest = r.greatest := by
    cases call <;> exact ⟨rfl, rfl⟩
  have self : (r.apply (key, call)).state key
      = ((Backoff.new least greatest).run (own key calls)).apply call := by
    cases call with
    | next =>
      rw [← h.state_eq]
      exact state_next_self r key
    | reset =>
      change (r.reset key).state key = ((Backoff.new least greatest).run (own key calls)).reset
      rw [state_reset_self, h.least_eq, h.greatest_eq, Backoff.reset_run_new]
  have others : ∀ k, k ≠ key → (r.apply (key, call)).state k = r.state k := by
    intro k hk
    cases call with
    | next => exact state_next_of_ne hk
    | reset => exact state_reset_of_ne hk
  refine ⟨bounds.1.trans h.least_eq, bounds.2.trans h.greatest_eq, fun k => ?_⟩
  rcases eq_or_ne k key with rfl | hk
  · rw [own_concat_self, Backoff.run_concat, self]
  · rw [own_concat_of_ne hk, others k hk, h.state_eq]

theorem follows_run (least greatest : UInt64) (calls : List Call) :
    Follows least greatest calls ((new least greatest).run calls) := by
  induction calls using List.reverseRecOn with
  | nil => exact follows_new least greatest
  | append_singleton calls call ih =>
    rw [run, List.foldl_concat]
    exact ih.apply call

/-- How many delays of a key were taken since it was last reset. -/
def taken (key : String) (calls : List Call) : Nat := Backoff.taken (own key calls)

theorem taken_replicate (key : String) (n : Nat) :
    taken key (List.replicate n (key, .next)) = n := by
  rw [taken, own_replicate, Backoff.taken_replicate]

/-- After any calls the next delay of a key is the one that fresh delays give after as many as were
taken since the last reset. -/
theorem next_run (least greatest : UInt64) (calls : List Call) (key : String) :
    (((new least greatest).run calls).next key).1
      = (Backoff.new least greatest).delay (taken key calls) := by
  change (((new least greatest).run calls).state key).next.1 = _
  rw [(follows_run least greatest calls).state_eq, Backoff.run_new]
  rfl

end BackoffRegistry

/-! ### Bounds from the environment -/

namespace Startup

variable {options : Options} {environment : String → Option String}

/-- The registry of a program with that environment. -/
def registry (options : Options) (environment : String → Option String) : BackoffRegistry :=
  (assemble options (Tuning.ofEnvironment environment)).registry

/-- The delay that a key is given next after calls. -/
def delayAfter (options : Options) (environment : String → Option String)
    (calls : List BackoffRegistry.Call) (key : String) : UInt64 :=
  (((registry options environment).run calls).next key).1

theorem delayAfter_eq (options : Options) (environment : String → Option String)
    (calls : List BackoffRegistry.Call) (key : String) :
    delayAfter options environment calls key
      = (Backoff.new (Tuning.ofEnvironment environment).backoffMin
          (Tuning.ofEnvironment environment).backoffMax).delay
        (BackoffRegistry.taken key calls) :=
  BackoffRegistry.next_run _ _ calls key

/-- Whatever the environment holds, and whatever was asked of the registry under any keys: the first
delay of a key, and the first after a reset, is the least one as it was set, and every other delay
is at most the greatest one. So a delay exceeds the greatest one just if it is the first and the
settings are out of order, and none ever does just if they are in order. -/
theorem delays_bounded (options : Options) (environment : String → Option String) :
    let tuning := Tuning.ofEnvironment environment
    (∀ calls key, BackoffRegistry.taken key calls = 0 →
        delayAfter options environment calls key = tuning.backoffMin)
      ∧ (∀ calls key, tuning.backoffMax < delayAfter options environment calls key
          ↔ BackoffRegistry.taken key calls = 0 ∧ tuning.backoffMax < tuning.backoffMin)
      ∧ ((∀ calls key, delayAfter options environment calls key ≤ tuning.backoffMax)
          ↔ tuning.backoffMin ≤ tuning.backoffMax) := by
  intro tuning
  have first : ∀ calls key, BackoffRegistry.taken key calls = 0 →
      delayAfter options environment calls key = tuning.backoffMin := by
    intro calls key hfirst
    rw [delayAfter_eq, hfirst, Backoff.delay_zero]
  have exceeds : ∀ calls key, tuning.backoffMax < delayAfter options environment calls key
      ↔ BackoffRegistry.taken key calls = 0 ∧ tuning.backoffMax < tuning.backoffMin := by
    intro calls key
    cases htaken : BackoffRegistry.taken key calls with
    | zero => simp [first calls key htaken]
    | succ n =>
      have hle := Backoff.delay_succ_le (.new tuning.backoffMin tuning.backoffMax) n
      rw [delayAfter_eq, htaken]
      exact ⟨fun h => absurd hle (UInt64.not_le.mpr h), fun h => absurd h.1 (Nat.succ_ne_zero n)⟩
  refine ⟨first, exceeds, fun h => ?_, fun h calls key => ?_⟩
  · have hfirst := h [] ""
    rwa [first [] "" rfl] at hfirst
  · by_contra hnot
    exact UInt64.not_lt.mpr h ((exceeds calls key).mp (UInt64.not_le.mp hnot)).2

/-- Ten minutes as the least delay, with the standard greatest one of five. -/
theorem first_delay_exceeds_greatest :
    let environment := fun name => if name = "BACKOFF_MIN_SECS" then some "600" else none
    (Tuning.ofEnvironment environment).backoffMax = 300
      ∧ delayAfter .default environment [] "CertificateRequest/default/web" = 600 := by
  decide +kernel

end Startup
end CertIssuer

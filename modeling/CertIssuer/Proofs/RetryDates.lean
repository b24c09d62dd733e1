import CertIssuer.Proofs.DelayBounds

/-!
For which delays a retry can be announced. A delay passes two limits one after the other: its
milliseconds must be a signed number of 64 bits, and the date of the next attempt must be one that
can be written. The first limit is looked after, in that nothing is added for a longer delay; the
second is the tighter one, so that between the two there are delays after which no reaction follows.
-/

namespace CertIssuer.Controller

open Startup

variable {now : Instant}

/-- There is a date to announce for the next attempt: the delay is too long to be added at all, or
what it leads to is not past the last date. -/
def Announceable (now : Instant) (seconds : Nat) : Prop :=
  secondsHorizon.toNat < seconds ∨ now + seconds * 1000 ≤ Instant.latest

instance (now : Instant) (seconds : Nat) : Decidable (Announceable now seconds) :=
  inferInstanceAs (Decidable (_ ∨ _))

/-- What can be written after some time can be written after less. -/
theorem announceable_of_le {m n : Nat} (h : m ≤ n) (hn : now + n * 1000 ≤ Instant.latest) :
    Announceable now m :=
  .inr (Int.le_trans (Int.add_le_add_left (by omega) now) hn)

theorem add?_isSome_iff (t : Instant) (milliseconds : Int) :
    (t.add? milliseconds).isSome = true ↔ t + milliseconds ≤ Instant.latest := by
  unfold Instant.add?
  split <;> simp_all

theorem add?_announced_isSome_iff (dated : now ≤ Instant.latest) (delay : UInt64) :
    (now.add? (announced delay)).isSome = true ↔ Announceable now delay.toNat := by
  rw [add?_isSome_iff, announced, Announceable]
  split
  · next h =>
    have hhorizon := UInt64.le_iff_toNat_le.mp h
    exact ⟨.inr, fun h => h.resolve_left (Nat.not_lt.mpr hhorizon)⟩
  · next h =>
    have hhorizon := UInt64.lt_iff_toNat_lt.mp (UInt64.not_le.mp h)
    exact ⟨fun _ => .inl hhorizon, fun _ => by rwa [Int.add_zero]⟩

/-! ### One reaction -/

/-- The action after an error, where that delay is next; none if no date can be announced. -/
def actionAfter? (now : Instant) (delay : UInt64) (e : ReconcileError) : Option Action :=
  match e.errorClass with
  | .terminal => some .awaitChange
  | .retryable => if Announceable now delay.toNat then some (.requeue delay) else none

theorem action_onError (dated : now ≤ Instant.latest) (registry : BackoffRegistry)
    (object : ObjectRef) (e : ReconcileError) :
    (onError registry now object e).map Reaction.action
      = actionAfter? now (registry.next object.backoffKey).1 e := by
  have hdate := add?_announced_isSome_iff dated (registry.next object.backoffKey).1
  rw [onError, actionAfter?]
  cases e.errorClass with
  | terminal => rfl
  | retryable =>
    dsimp only
    split
    · next h =>
      obtain ⟨date, hadd⟩ := Option.isSome_iff_exists.mp (hdate.mpr h)
      rw [hadd]
      rfl
    · next h =>
      rw [Option.not_isSome_iff_eq_none.mp fun hsome => h (hdate.mp hsome)]
      rfl

/-! ### All reactions -/

/-- A program with that environment reacts to every error of every object, whatever was asked of its
registry before. -/
def ReactsAlways (options : Options) (environment : String → Option String) (now : Instant) :
    Prop :=
  ∀ calls object e,
    (onError ((registry options environment).run calls) now object e).isSome = true

/-- Every delay of some bounds is one that is next for any object after some calls. -/
theorem delayAfter_replicate (options : Options) (environment : String → Option String)
    (key : String) (n : Nat) :
    delayAfter options environment (List.replicate n (key, .next)) key
      = (Backoff.new (Tuning.ofEnvironment environment).backoffMin
          (Tuning.ofEnvironment environment).backoffMax).delay n := by
  rw [delayAfter_eq, BackoffRegistry.taken_replicate]

theorem reactsAlways_iff (dated : now ≤ Instant.latest) (options : Options)
    (environment : String → Option String) :
    ReactsAlways options environment now
      ↔ ∀ n, Announceable now ((Backoff.new (Tuning.ofEnvironment environment).backoffMin
          (Tuning.ofEnvironment environment).backoffMax).delay n).toNat := by
  constructor
  · intro reacts n
    have hsome := reacts (List.replicate n (ObjectRef.backoffKey ⟨.request, none, ""⟩, .next))
      ⟨.request, none, ""⟩ (.issuerNotReady "")
    rw [← Option.isSome_map, action_onError dated] at hsome
    change (actionAfter? now (delayAfter options environment _ _) _).isSome = true at hsome
    rw [delayAfter_replicate] at hsome
    by_contra hnot
    rw [actionAfter?, if_neg hnot] at hsome
    cases hsome
  · intro announceable calls object e
    rw [← Option.isSome_map, action_onError dated]
    change (actionAfter? now (delayAfter options environment calls object.backoffKey) e).isSome
      = true
    rw [delayAfter_eq, actionAfter?]
    cases e.errorClass with
    | terminal => rfl
    | retryable =>
      rw [if_pos (announceable _)]
      rfl

/-- Which actions follow from errors, for whatever settings the environment holds and whatever was
asked of the registry. A terminal error always lets the object wait. A retryable one brings it back
after its next delay if there is a date to announce for that, and otherwise nothing follows. So a
program reacts to every error just if there is such a date for the least delay as it was set and for
all multiples of it by the Fibonacci numbers up to the greatest one; it does if there is one for
spans as long as both settings. -/
theorem reacts_unless_past_last_date (dated : now ≤ Instant.latest) (options : Options)
    (environment : String → Option String) :
    let least := (Tuning.ofEnvironment environment).backoffMin.toNat
    let greatest := (Tuning.ofEnvironment environment).backoffMax.toNat
    (∀ calls object e,
      (onError ((registry options environment).run calls) now object e).map Reaction.action
        = actionAfter? now (delayAfter options environment calls object.backoffKey) e)
      ∧ (ReactsAlways options environment now ↔ Announceable now least
        ∧ ∀ n, Announceable now (min greatest (least * Nat.fib (n + 2))))
      ∧ (now + least * 1000 ≤ Instant.latest → now + greatest * 1000 ≤ Instant.latest →
        ReactsAlways options environment now) := by
  intro least greatest
  have always : ReactsAlways options environment now ↔ Announceable now least
      ∧ ∀ n, Announceable now (min greatest (least * Nat.fib (n + 2))) := by
    rw [reactsAlways_iff dated]
    constructor
    · intro h
      refine ⟨h 0, fun n => ?_⟩
      have hsucc := h (n + 1)
      rwa [Backoff.toNat_delay_succ] at hsucc
    · rintro ⟨first, later⟩ n
      cases n with
      | zero => exact first
      | succ n =>
        rw [Backoff.toNat_delay_succ]
        exact later n
  refine ⟨fun calls object e => action_onError dated _ object e, always, ?_⟩
  intro hleast hgreatest
  exact always.mpr ⟨.inr hleast, fun n => announceable_of_le (Nat.min_le_left _ _) hgreatest⟩

/-- An environment that sets the least delay. -/
def settingLeast (value : String) : String → Option String :=
  fun name => if name = "BACKOFF_MIN_SECS" then some value else none

/-- The greatest number of 64 bits as the least delay is not added to the time, so that every error
gets its reaction. -/
theorem reacts_over_the_horizon :
    (1704067200000 : Instant) ≤ Instant.latest
      ∧ ReactsAlways .default (settingLeast "18446744073709551615") 1704067200000 := by
  have dated : (1704067200000 : Instant) ≤ Instant.latest := by decide
  have hleast : (Tuning.ofEnvironment (settingLeast "18446744073709551615")).backoffMin.toNat
      = 18446744073709551615 := by decide +kernel
  have hgreatest : (Tuning.ofEnvironment (settingLeast "18446744073709551615")).backoffMax.toNat
      = 300 := by decide +kernel
  obtain ⟨-, always, -⟩ :=
    reacts_unless_past_last_date dated .default (settingLeast "18446744073709551615")
  rw [hleast, hgreatest] at always
  have later : (1704067200000 : Instant) + (300 : Nat) * 1000 ≤ Instant.latest := by decide
  exact ⟨dated, always.mpr ⟨.inl (by decide),
    fun n => announceable_of_le (Nat.min_le_left _ _) later⟩⟩

/-- A least delay of more than three hundred thousand years, which is short enough to be added to
the time and leads past the last date: nothing follows from the first retryable error. -/
theorem no_reaction_past_last_date :
    onError (registry .default (settingLeast "10000000000000")) 1704067200000
      ⟨.request, some "default", "web"⟩ (.issuerNotReady "default/prod") = none :=
  Option.isNone_iff_eq_none.mp (by decide +kernel)

end CertIssuer.Controller

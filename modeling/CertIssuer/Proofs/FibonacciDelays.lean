import CertIssuer.Proofs.Delays
import Mathlib.Data.Nat.Fib.Basic

/-!
The delays of one object in closed form: the multiples of the least delay by the Fibonacci numbers,
up to the greatest delay.

Only delays that were cut off already are there to be added, and they are added in 64 bits. Neither
shows, since a sum that is cut off is the same whether or not its parts were cut off before. What
holds of every state is therefore said of its two delays after another cut.
-/

namespace CertIssuer.Backoff

variable {b : Backoff} {least greatest : UInt64} {m n : Nat}

/-! ### One delay after another -/

theorem toNat_saturatingAdd (a b : UInt64) :
    (saturatingAdd a b).toNat = min (UInt64.size - 1) (a.toNat + b.toNat) := by
  have hsize : (UInt64.ofNat (UInt64.size - 1)).toNat = UInt64.size - 1 := by decide
  unfold saturatingAdd
  split
  · next h =>
    rw [UInt64.toNat_add, Nat.mod_eq_of_lt h, Nat.min_eq_right (Nat.le_sub_one_of_lt h)]
  · next h => rw [hsize, Nat.min_eq_left (by omega)]

/-- The delay after the next is the sum of the last two over the natural numbers, up to the greatest
delay: no sum that saturates is below that. -/
theorem toNat_current_next (b : Backoff) :
    b.next.2.current.toNat = min b.greatest.toNat (b.previous.toNat + b.current.toNat) := by
  have hcurrent : b.next.2.current.toNat
      = min b.greatest.toNat (saturatingAdd b.previous b.current).toNat := by
    change (if b.greatest < saturatingAdd b.previous b.current then b.greatest
      else saturatingAdd b.previous b.current).toNat = _
    split
    · next h => rw [Nat.min_eq_left (UInt64.lt_iff_toNat_lt.mp h).le]
    · next h => rw [Nat.min_eq_right (UInt64.le_iff_toNat_le.mp (UInt64.not_lt.mp h))]
  have hgreatest : b.greatest.toNat < UInt64.size := b.greatest.toNat_lt
  rw [hcurrent, toNat_saturatingAdd]
  omega

/-- A state after that many delays were taken: cut off at the greatest delay, its two delays are the
multiples of the least one by two neighbouring Fibonacci numbers. -/
structure Reaches (least greatest : UInt64) (n : Nat) (b : Backoff) : Prop where
  least_eq : b.least = least
  greatest_eq : b.greatest = greatest
  previous : min greatest.toNat b.previous.toNat = min greatest.toNat (least.toNat * Nat.fib n)
  current :
    min greatest.toNat b.current.toNat = min greatest.toNat (least.toNat * Nat.fib (n + 1))

theorem reaches_new (least greatest : UInt64) : Reaches least greatest 0 (new least greatest) where
  least_eq := rfl
  greatest_eq := rfl
  previous := by rw [Nat.fib_zero, Nat.mul_zero]; rfl
  current := by rw [Nat.zero_add, Nat.fib_one, Nat.mul_one]; rfl

/-- Taking a delay leads to the next Fibonacci number. -/
theorem Reaches.next (h : Reaches least greatest n b) :
    Reaches least greatest (n + 1) b.next.2 where
  least_eq := h.least_eq
  greatest_eq := h.greatest_eq
  previous := h.current
  current := by
    have hprevious := h.previous
    have hcurrent := h.current
    have hsum : least.toNat * Nat.fib (n + 1 + 1)
        = least.toNat * Nat.fib n + least.toNat * Nat.fib (n + 1) := by
      rw [Nat.fib_add_two, Nat.mul_add]
    -- a cut sum depends on what its parts are after a cut, and on nothing else of them
    rw [toNat_current_next, h.greatest_eq, hsum]
    omega

theorem reaches_after (least greatest : UInt64) (n : Nat) :
    Reaches least greatest n ((new least greatest).after n) := by
  induction n with
  | zero => exact reaches_new least greatest
  | succ n ih => exact ih.next

/-- The first delay is the least one, over the greatest one or not. -/
theorem delay_zero (least greatest : UInt64) : (new least greatest).delay 0 = least := rfl

/-- Every delay but the first, whichever of the two bounds is greater. -/
theorem toNat_delay_succ (least greatest : UInt64) (n : Nat) :
    ((new least greatest).delay (n + 1)).toNat
      = min greatest.toNat (least.toNat * Nat.fib (n + 2)) := by
  have hle : ((new least greatest).delay (n + 1)).toNat ≤ greatest.toNat :=
    UInt64.le_iff_toNat_le.mp (delay_succ_le (new least greatest) n)
  have hcut : min greatest.toNat ((new least greatest).delay (n + 1)).toNat
      = min greatest.toNat (least.toNat * Nat.fib (n + 2)) :=
    (reaches_after least greatest (n + 1)).current
  rwa [Nat.min_eq_right hle] at hcut

/-- Every delay, the first included, where the bounds are in order. -/
theorem toNat_delay (h : least ≤ greatest) (n : Nat) :
    ((new least greatest).delay n).toNat
      = min greatest.toNat (least.toNat * Nat.fib (n + 1)) := by
  cases n with
  | zero =>
    rw [delay_zero, Nat.zero_add, Nat.fib_one, Nat.mul_one,
      Nat.min_eq_right (UInt64.le_iff_toNat_le.mp h)]
  | succ n => exact toNat_delay_succ least greatest n

/-! ### Calls -/

/-- What is asked of the delays of one object. -/
inductive Call where
  | next
  | reset
  deriving DecidableEq

/-- The delays after a call. -/
def apply (b : Backoff) : Call → Backoff
  | .next => b.next.2
  | .reset => b.reset

/-- The delays after calls. -/
def run (b : Backoff) (calls : List Call) : Backoff := calls.foldl apply b

theorem run_concat (b : Backoff) (calls : List Call) (call : Call) :
    b.run (calls ++ [call]) = (b.run calls).apply call := List.foldl_concat ..

/-- How many delays were taken since the last reset. -/
def taken (calls : List Call) : Nat := (calls.reverse.takeWhile (· = .next)).length

theorem taken_append_next (calls : List Call) : taken (calls ++ [.next]) = taken calls + 1 := by
  simp [taken]

theorem taken_append_reset (calls : List Call) : taken (calls ++ [.reset]) = 0 := by
  simp [taken]

theorem taken_replicate (n : Nat) : taken (List.replicate n .next) = n := by
  simp [taken]

theorem reset_eq_new (b : Backoff) : b.reset = new b.least b.greatest := rfl

/-- Whatever was asked, only the delays taken since the last reset count. -/
theorem run_new (least greatest : UInt64) (calls : List Call) :
    (new least greatest).run calls = (new least greatest).after (taken calls) := by
  induction calls using List.reverseRecOn with
  | nil => rfl
  | append_singleton calls call ih =>
    rw [run_concat, ih]
    cases call with
    | next =>
      rw [taken_append_next]
      rfl
    | reset =>
      have reached := reaches_after least greatest (taken calls)
      rw [taken_append_reset]
      change ((new least greatest).after (taken calls)).reset = new least greatest
      rw [reset_eq_new, reached.least_eq, reached.greatest_eq]

theorem reset_run_new (least greatest : UInt64) (calls : List Call) :
    ((new least greatest).run calls).reset = new least greatest := by
  have reached := reaches_after least greatest (taken calls)
  rw [run_new, reset_eq_new, reached.least_eq, reached.greatest_eq]

/-! ### The closed form -/

/-- Delays, counted from zero, that are the multiples of the least one by the Fibonacci numbers, up
to the greatest one. -/
structure Fibonacci (least greatest : UInt64) (delay : Nat → UInt64) : Prop where
  nth : ∀ n, 1 ≤ n →
    (delay (n - 1)).toNat = min greatest.toNat (least.toNat * Nat.fib n)
  never_decreases : ∀ m n, m ≤ n → delay m ≤ delay n
  reaches_greatest : 0 < least → ∃ n, 1 ≤ n ∧ greatest.toNat ≤ least.toNat * Nat.fib n
  stays_greatest : ∀ n, 1 ≤ n → greatest.toNat ≤ least.toNat * Nat.fib n →
    ∀ m, n ≤ m → delay (m - 1) = greatest

/-- Some Fibonacci number takes a positive number over any bound. -/
theorem exists_le_mul_fib (h : 0 < m) (bound : Nat) : ∃ n, 1 ≤ n ∧ bound ≤ m * Nat.fib n := by
  refine ⟨bound + 5, by omega, ?_⟩
  calc bound ≤ bound + 5 := by omega
    _ ≤ Nat.fib (bound + 5) := Nat.le_fib_self (by omega)
    _ ≤ m * Nat.fib (bound + 5) := Nat.le_mul_of_pos_left _ h

theorem fibonacci_new (h : least ≤ greatest) :
    Fibonacci least greatest (new least greatest).delay where
  nth n hn := by
    have hnth := toNat_delay h (n - 1)
    rwa [Nat.sub_add_cancel hn] at hnth
  never_decreases m n hmn := by
    have hfib : least.toNat * Nat.fib (m + 1) ≤ least.toNat * Nat.fib (n + 1) :=
      Nat.mul_le_mul_left _ (Nat.fib_mono (Nat.succ_le_succ hmn))
    rw [UInt64.le_iff_toNat_le, toNat_delay h, toNat_delay h]
    omega
  reaches_greatest positive := exists_le_mul_fib (UInt64.lt_iff_toNat_lt.mp positive) _
  stays_greatest n hn hreached m hm := by
    have hfib : least.toNat * Nat.fib n ≤ least.toNat * Nat.fib m :=
      Nat.mul_le_mul_left _ (Nat.fib_mono hm)
    have hnth := toNat_delay h (m - 1)
    rw [Nat.sub_add_cancel (hn.trans hm), Nat.min_eq_left (hreached.trans hfib)] at hnth
    exact UInt64.toNat_inj.mp hnth

/-- The delays from the start and those after any calls and a reset are the multiples of the least
delay by the Fibonacci numbers, up to the greatest delay. In no state that calls lead to does it
show that a sum saturates: the delay after the next is the sum of the last two over the natural
numbers, up to the greatest delay. -/
theorem delays_fibonacci (h : least ≤ greatest) (calls : List Call) :
    let reached := (new least greatest).run calls
    Fibonacci least greatest (new least greatest).delay
      ∧ Fibonacci least greatest reached.reset.delay
      ∧ (reached.delay 1).toNat
        = min greatest.toNat (reached.previous.toNat + (reached.delay 0).toNat) := by
  intro reached
  refine ⟨fibonacci_new h, ?_, ?_⟩
  · rw [reset_run_new]
    exact fibonacci_new h
  · have hgreatest : reached.greatest = greatest := by
      rw [show reached = _ from run_new least greatest calls]
      exact (reaches_after least greatest (taken calls)).greatest_eq
    rw [← hgreatest]
    exact toNat_current_next reached

/-- With half of all numbers of 64 bits as the least delay the sum of the first two does not fit. -/
theorem delays_fibonacci_at_the_top :
    let reached := (new 9223372036854775808 18446744073709551615).run [.next, .next, .reset, .next]
    (9223372036854775808 : UInt64) ≤ 18446744073709551615
      ∧ reached.previous = 9223372036854775808 ∧ reached.delay 0 = 9223372036854775808
      ∧ (reached.delay 1).toNat = min (UInt64.size - 1) (9223372036854775808 + 9223372036854775808)
      ∧ reached.reset.delay 2 = 18446744073709551615 := by
  intro reached
  have h : (9223372036854775808 : UInt64) ≤ 18446744073709551615 := by decide
  obtain ⟨-, again, sum⟩ := delays_fibonacci h [.next, .next, .reset, .next]
  exact ⟨h, by decide, by decide, sum, again.stays_greatest 3 (by decide) (by decide) 3 le_rfl⟩

/-- The delays of the standard bounds. -/
example :
    (List.range 11).map (new 5 300).delay = [5, 5, 10, 15, 25, 40, 65, 105, 170, 275, 300] := by
  decide

end CertIssuer.Backoff

import CertIssuer.Proofs.Rounding
import CertIssuer.Store.RateLimit

/-!
What a rate limiter lets through, counted exactly. Whoever asks, and however often they are refused,
no window of time sees more requests than the bucket holds and than comes in during the window.

The bucket is behind a lock. So what callers do at once is a list of turns in the order in which
they get hold of it, at instants that do not decrease, and which caller has a turn does not show in
the bucket.

The potential of a bucket is what it holds less all that has come in since the beginning of time. No
refill raises it, since tokens come in at a constant rate and some may run over, and each request
that is let through lowers it by one.
-/

namespace CertIssuer

open Number (Binary binary32 binary64 twoTo)

namespace Arithmetic

theorem exact_seconds (n : Nat) : exact.seconds n = (n : Rat) / 1000000000 := by
  change mkRat n Span.nanosecondsPerSecond = _
  rw [Rat.mkRat_eq_div]
  rfl

theorem exact_seconds_nonneg (n : Nat) : 0 ≤ exact.seconds n := by
  rw [exact_seconds]
  positivity

theorem exact_seconds_sub {m n : Nat} (h : m ≤ n) :
    exact.seconds (n - m) = exact.seconds n - exact.seconds m := by
  rw [exact_seconds, exact_seconds, exact_seconds, Nat.cast_sub h, sub_div]

theorem exact_seconds_mono {m n : Nat} (h : m ≤ n) : exact.seconds m ≤ exact.seconds n := by
  rw [exact_seconds, exact_seconds]
  gcongr

end Arithmetic

/-- How many requests an attempt lets through. -/
def Attempt.passed {α : Type} : Attempt α → Nat
  | .granted => 1
  | .wait _ => 0

namespace RateLimiter

open Arithmetic (exact)

/-! ### Turns -/

/-- A turn: who asks for a token, and when. -/
structure Turn (ι : Type) where
  caller : ι
  instant : Nat
  deriving DecidableEq

section

variable {α ι : Type}

/-- The bucket after turns. -/
def after (A : Arithmetic α) (l : RateLimiter α) (b : Bucket α) (turns : List (Turn ι)) :
    Bucket α :=
  turns.foldl (fun b turn => (attempt A l b turn.instant).2) b

/-- The turns in which a token was got. -/
def granted (A : Arithmetic α) (l : RateLimiter α) : Bucket α → List (Turn ι) → List (Turn ι)
  | _, [] => []
  | b, turn :: turns =>
    match attempt A l b turn.instant with
    | (.granted, b) => turn :: granted A l b turns
    | (.wait _, b) => granted A l b turns

/-- The turns are in the order of their instants, and none is before the start. -/
def Ordered (start : Nat) (turns : List (Turn ι)) : Prop :=
  (start :: turns.map Turn.instant).Pairwise (· ≤ ·)

instance (start : Nat) (turns : List (Turn ι)) : Decidable (Ordered start turns) :=
  inferInstanceAs (Decidable (List.Pairwise _ _))

theorem Ordered.of_cons {start : Nat} {turn : Turn ι} {turns : List (Turn ι)}
    (h : Ordered start (turn :: turns)) : start ≤ turn.instant ∧ Ordered turn.instant turns := by
  obtain ⟨first, rest⟩ := List.pairwise_cons.mp h
  exact ⟨first _ List.mem_cons_self, rest⟩

theorem Ordered.le {start : Nat} {turn : Turn ι} {turns : List (Turn ι)} (h : Ordered start turns)
    (mem : turn ∈ turns) : start ≤ turn.instant :=
  (List.pairwise_cons.mp h).1 _ (List.mem_map_of_mem mem)

/-- How many of the turns in which a token was got are in a window. -/
def passedWithin (s t : Nat) (turns : List (Turn ι)) : Nat :=
  turns.countP fun turn => s ≤ turn.instant ∧ turn.instant ≤ t

theorem mem_of_mem_granted {A : Arithmetic α} {l : RateLimiter α} {b : Bucket α}
    {turns : List (Turn ι)} {turn : Turn ι} (h : turn ∈ granted A l b turns) : turn ∈ turns := by
  induction turns generalizing b with
  | nil => exact h
  | cons first turns ih =>
    rw [granted] at h
    split at h
    · rcases List.mem_cons.mp h with rfl | h
      · exact List.mem_cons_self
      · exact List.mem_cons_of_mem _ (ih h)
    · exact List.mem_cons_of_mem _ (ih h)

theorem passedWithin_granted_cons (A : Arithmetic α) (l : RateLimiter α) (b : Bucket α)
    (turn : Turn ι) (turns : List (Turn ι)) (s t : Nat) :
    passedWithin s t (granted A l b (turn :: turns))
      = (if s ≤ turn.instant ∧ turn.instant ≤ t then (attempt A l b turn.instant).1.passed else 0)
        + passedWithin s t (granted A l (attempt A l b turn.instant).2 turns) := by
  rw [granted]
  cases hattempt : attempt A l b turn.instant with
  | mk outcome after =>
    cases outcome with
    | granted =>
      simp only [passedWithin, List.countP_cons, decide_eq_true_eq, Attempt.passed]
      omega
    | wait seconds => simp [Attempt.passed]

/-- No turn after a window is in it. -/
theorem passedWithin_of_lt {A : Arithmetic α} {l : RateLimiter α} {b : Bucket α} {start s t : Nat}
    {turns : List (Turn ι)} (ordered : Ordered start turns) (late : t < start) :
    passedWithin s t (granted A l b turns) = 0 := by
  refine List.countP_eq_zero.mpr fun turn mem => ?_
  have hstart := ordered.le (mem_of_mem_granted mem)
  simp only [decide_eq_true_eq]
  omega

end

/-! ### One attempt -/

variable {ι : Type} {l : RateLimiter Rat} {b : Bucket Rat} {s t : Nat} {turns : List (Turn ι)}

/-- The number of tokens is one that the bucket can have. -/
structure InRange (l : RateLimiter Rat) (b : Bucket Rat) : Prop where
  nonneg : 0 ≤ b.tokens
  le_burst : b.tokens ≤ l.burst

theorem inRange_full (h : 0 ≤ l.burst) (start : Nat) : InRange l (l.full start) := ⟨h, le_rfl⟩

theorem tokens_refill (l : RateLimiter Rat) (b : Bucket Rat) (now : Nat) :
    (refill exact l b now).tokens
      = min (b.tokens + exact.seconds (now - b.refilledAt) * l.rate) l.burst :=
  (min_def _ _).symm

theorem InRange.refill (h : InRange l b) (rate_nonneg : 0 ≤ l.rate) (now : Nat) :
    InRange l (refill exact l b now) := by
  have hcame : 0 ≤ exact.seconds (now - b.refilledAt) * l.rate :=
    mul_nonneg (Arithmetic.exact_seconds_nonneg _) rate_nonneg
  constructor
  · rw [tokens_refill]
    exact le_min (add_nonneg h.nonneg hcame) (h.nonneg.trans h.le_burst)
  · rw [tokens_refill]
    exact min_le_right _ _

/-- A request that is let through takes one token, and one that is not takes none. -/
theorem passed_add_tokens_take (l : RateLimiter Rat) (b : Bucket Rat) :
    ((take exact l b).1.passed : Rat) + (take exact l b).2.tokens = b.tokens := by
  unfold take
  split
  · change ((1 : Nat) : Rat) + (b.tokens - 1) = b.tokens
    push_cast
    ring
  · change ((0 : Nat) : Rat) + b.tokens = b.tokens
    push_cast
    ring

theorem InRange.take (h : InRange l b) : InRange l (take exact l b).2 := by
  have hpassed := passed_add_tokens_take l b
  constructor
  · unfold RateLimiter.take
    split
    · next hone =>
      have hone : (1 : Rat) ≤ b.tokens := of_decide_eq_true hone
      exact sub_nonneg.mpr hone
    · exact h.nonneg
  · have hnonneg : (0 : Rat) ≤ (RateLimiter.take exact l b).1.passed := Nat.cast_nonneg _
    linarith [h.le_burst]

theorem InRange.attempt (h : InRange l b) (rate_nonneg : 0 ≤ l.rate) (now : Nat) :
    InRange l (attempt exact l b now).2 := (h.refill rate_nonneg now).take

theorem refilledAt_attempt (l : RateLimiter Rat) (b : Bucket Rat) (now : Nat) :
    (attempt exact l b now).2.refilledAt = now := by
  unfold attempt take
  split <;> rfl

/-- An attempt has no more tokens to give than the bucket holds. -/
theorem passed_add_tokens_le (l : RateLimiter Rat) (b : Bucket Rat) (now : Nat) :
    ((attempt exact l b now).1.passed : Rat) + (attempt exact l b now).2.tokens ≤ l.burst := by
  rw [attempt, passed_add_tokens_take, tokens_refill]
  exact min_le_right _ _

/-- What the bucket holds less all that has come in. -/
def potential (l : RateLimiter Rat) (b : Bucket Rat) : Rat :=
  b.tokens - exact.seconds b.refilledAt * l.rate

/-- By an instant the potential has been made up for by what has come in. -/
theorem InRange.le_potential_add (h : InRange l b) (rate_nonneg : 0 ≤ l.rate)
    (before : b.refilledAt ≤ t) : 0 ≤ potential l b + exact.seconds t * l.rate := by
  have hcame := mul_le_mul_of_nonneg_right (Arithmetic.exact_seconds_mono before) rate_nonneg
  rw [potential]
  linarith [h.nonneg]

/-- What an attempt lets through comes out of the potential. -/
theorem passed_add_potential_le {now : Nat} (h : b.refilledAt ≤ now) :
    ((attempt exact l b now).1.passed : Rat) + potential l (attempt exact l b now).2
      ≤ potential l b := by
  have hpassed := passed_add_tokens_take l (refill exact l b now)
  have htokens : (refill exact l b now).tokens
      ≤ b.tokens + exact.seconds (now - b.refilledAt) * l.rate := by
    rw [tokens_refill]
    exact min_le_left _ _
  rw [Arithmetic.exact_seconds_sub h] at htokens
  rw [potential, potential, refilledAt_attempt, attempt]
  linarith

/-! ### Runs -/

theorem InRange.after (h : InRange l b) (rate_nonneg : 0 ≤ l.rate) (turns : List (Turn ι)) :
    InRange l (after exact l b turns) := by
  induction turns generalizing b with
  | nil => exact h
  | cons turn turns ih => exact ih (h.attempt rate_nonneg turn.instant)

/-- Up to an instant no more is let through than the bucket holds and than comes in until then. -/
theorem passedWithin_le_potential (h : InRange l b) (rate_nonneg : 0 ≤ l.rate)
    (ordered : Ordered b.refilledAt turns) (before : b.refilledAt ≤ t) :
    (passedWithin s t (granted exact l b turns) : Rat)
      ≤ potential l b + exact.seconds t * l.rate := by
  induction turns generalizing b with
  | nil =>
    rw [granted, passedWithin, List.countP_nil, Nat.cast_zero]
    exact h.le_potential_add rate_nonneg before
  | cons turn turns ih =>
    obtain ⟨hstart, rest⟩ := ordered.of_cons
    have hrefilled := refilledAt_attempt l b turn.instant
    rw [passedWithin_granted_cons]
    rcases Nat.lt_or_ge t turn.instant with late | early
    · rw [if_neg (by omega), passedWithin_of_lt rest late, Nat.cast_zero]
      exact h.le_potential_add rate_nonneg before
    · have hone := passed_add_potential_le (l := l) hstart
      have hrest := ih (h.attempt rate_nonneg turn.instant) (by rwa [hrefilled])
        (by rwa [hrefilled])
      split
      · push_cast
        linarith
      · -- a turn before the window lowers the potential all the same
        have hnonneg : (0 : Rat) ≤ (RateLimiter.attempt exact l b turn.instant).1.passed :=
          Nat.cast_nonneg _
        push_cast
        linarith

/-- In a window no more is let through than the bucket can hold and than comes in during it. -/
theorem passedWithin_le (h : InRange l b) (rate_nonneg : 0 ≤ l.rate)
    (ordered : Ordered b.refilledAt turns) (window : s ≤ t) :
    (passedWithin s t (granted exact l b turns) : Rat)
      ≤ l.burst + exact.seconds (t - s) * l.rate := by
  have hburst : 0 ≤ l.burst := h.nonneg.trans h.le_burst
  have hcame : 0 ≤ exact.seconds (t - s) * l.rate :=
    mul_nonneg (Arithmetic.exact_seconds_nonneg _) rate_nonneg
  induction turns generalizing b with
  | nil =>
    rw [granted, passedWithin, List.countP_nil, Nat.cast_zero]
    exact add_nonneg hburst hcame
  | cons turn turns ih =>
    obtain ⟨-, rest⟩ := ordered.of_cons
    have hrefilled := refilledAt_attempt l b turn.instant
    have hrange := h.attempt rate_nonneg turn.instant
    rw [passedWithin_granted_cons]
    -- a turn before the window does not count, the first one in it finds a full bucket at most
    rcases Nat.lt_or_ge turn.instant s with early | hs
    · rw [if_neg (by omega), Nat.zero_add]
      exact ih hrange (by rwa [hrefilled])
    · rcases Nat.lt_or_ge t turn.instant with late | ht
      · rw [if_neg (by omega), passedWithin_of_lt rest late, Nat.cast_zero]
        exact add_nonneg hburst hcame
      · have hrest := passedWithin_le_potential (s := s) (t := t) hrange rate_nonneg
          (by rwa [hrefilled]) (by rwa [hrefilled])
        have hone := passed_add_tokens_le l b turn.instant
        have hwindow := mul_le_mul_of_nonneg_right (Arithmetic.exact_seconds_mono hs) rate_nonneg
        rw [potential, hrefilled] at hrest
        rw [if_pos ⟨hs, ht⟩, Arithmetic.exact_seconds_sub window]
        push_cast
        linarith

/-! ### Limiters as they are set -/

/-- The limiter that counts exactly with the numbers of a limiter, if these are finite. -/
def value? (l : RateLimiter Binary) : Option (RateLimiter Rat) :=
  match l.rate.value?, l.burst.value? with
  | some rate, some burst => some ⟨rate, burst⟩
  | _, _ => none

/-- A positive finite number of 32 bits. -/
structure SingleRate (q : Rat) : Prop where
  positive : 0 < q
  single : binary32.Has q
  finite : q < twoTo binary32.maxExponent

/-- A positive number of 32 bits is one of 64 bits and not below the least rate. -/
theorem rate_new {q : Rat} (h : SingleRate q) (burst : Int) :
    (new (.finite false q) burst).rate = .finite false q := by
  obtain ⟨m, e, hm, he, hq⟩ := h.single
  have hm' : m ≤ 2 ^ binary64.precision := hm.trans (by decide)
  have he' : binary64.minExponent ≤ e := le_trans (by decide) he
  have hsmall : q < twoTo binary64.maxExponent :=
    h.finite.trans (Number.twoTo_lt_twoTo.mpr (by decide))
  have hround : binary64.round false q = .finite false q :=
    Number.Format.round_of_has (by decide) ⟨m, e, hm', he', hq⟩ hsmall
  have hleast : ¬ q < twoTo (-1022) :=
    not_lt.mpr ((Number.twoTo_le_twoTo.mpr (by decide)).trans (h.single.twoTo_le h.positive))
  change Binary.max (binary64.round false q) leastRate = _
  rw [hround]
  simp [Binary.max, Binary.lt, leastRate, hleast]

theorem burst_new (rate : Binary) {burst : Int} (low : 1 ≤ burst)
    (high : burst ≤ Int32.maxValue.toInt) :
    (new rate burst).burst = .finite false burst.natAbs := by
  have hmax : max burst 1 = burst := max_eq_left low
  have hsign : decide (burst < 0) = false := decide_eq_false (by omega)
  have hsize : burst.natAbs ≤ 2 ^ binary64.precision := by
    have hhigh : Int32.maxValue.toInt = 2147483647 := by decide
    have hprecision : 2 ^ binary64.precision = 9007199254740992 := by decide
    omega
  change Binary.ofInt binary64 (max burst 1) = _
  rw [hmax, Binary.ofInt, hsign]
  exact Number.whole_binary64.round_natCast hsize

theorem value?_new {q : Rat} (h : SingleRate q) {burst : Int} (low : 1 ≤ burst)
    (high : burst ≤ Int32.maxValue.toInt) :
    (new (.finite false q) burst).value? = some ⟨q, burst⟩ := by
  have hburst : ((burst.natAbs : Nat) : Rat) = burst := by
    rw [← Int.cast_natCast, Int.natAbs_of_nonneg (by omega)]
  rw [value?, rate_new h, burst_new _ low high]
  simp only [Binary.value?, hburst]

/-- A limiter that was set to a positive finite rate and a burst of at least one, over any turns of
any callers in the order of time. The bucket never holds less than nothing or more than the burst,
whenever it is refilled; and in no window are more requests let through than the burst and what
comes in during the window. -/
theorem granted_within_rate {q : Rat} (rate : SingleRate q) {burst : Int} (low : 1 ≤ burst)
    (high : burst ≤ Int32.maxValue.toInt) {start : Nat} {turns : List (Turn ι)}
    (ordered : Ordered start turns) :
    let l : RateLimiter Rat := ⟨q, burst⟩
    (new (.finite false q) burst).value? = some l
      ∧ (∀ before, before <+: turns →
        InRange l (after exact l (l.full start) before)
          ∧ ∀ now, InRange l (refill exact l (after exact l (l.full start) before) now))
      ∧ ∀ s t, s ≤ t → (passedWithin s t (granted exact l (l.full start) turns) : Rat)
        ≤ burst + q * ((t - s : Nat) / 1000000000) := by
  intro l
  have hburst : (0 : Rat) ≤ burst := by exact_mod_cast (show (0 : Int) ≤ burst by omega)
  have hfull : InRange l (l.full start) := inRange_full hburst start
  refine ⟨value?_new rate low high, fun before _ => ?_, fun s t window => ?_⟩
  · have hafter := hfull.after rate.positive.le before
    exact ⟨hafter, fun now => hafter.refill rate.positive.le now⟩
  · have hle := passedWithin_le (s := s) (t := t) hfull rate.positive.le ordered window
    rw [Arithmetic.exact_seconds, mul_comm] at hle
    exact hle

/-- Three callers within half a second, two of whom are refused once. -/
def threeCallers : List (Turn String) :=
  [⟨"a", 0⟩, ⟨"b", 0⟩, ⟨"c", 0⟩, ⟨"b", 250000000⟩, ⟨"c", 500000000⟩]

/-- Two requests a second and two at once leave room for three within half a second, and these are
let through. -/
theorem granted_within_rate_three_callers :
    let l : RateLimiter Rat := ⟨2, 2⟩
    SingleRate 2 ∧ Ordered 0 threeCallers
      ∧ (granted exact l (l.full 0) threeCallers).map Turn.caller = ["a", "b", "c"]
      ∧ (passedWithin 0 500000000 (granted exact l (l.full 0) threeCallers) : Rat)
        ≤ 2 + 2 * ((500000000 - 0 : Nat) / 1000000000) := by
  intro l
  have rate : SingleRate 2 :=
    ⟨by norm_num, Number.Format.has_natCast (n := 2) (by decide) (by decide), by decide +kernel⟩
  have ordered : Ordered 0 threeCallers := by decide
  have low : (1 : Int) ≤ 2 := by decide
  obtain ⟨-, -, window⟩ := granted_within_rate rate low (by decide) ordered
  exact ⟨rate, ordered, by decide +kernel, window 0 500000000 (by decide)⟩

end RateLimiter
end CertIssuer

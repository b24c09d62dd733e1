import CertIssuer.Proofs.TokenBucket
import CertIssuer.Settings.CommandLine

/-!
How long a rate limiter lets a request wait, in the arithmetic that it counts with. Whatever valid
options set, every wait is a finite number of seconds that is not negative. Whether it is a span to
sleep for depends on the rate alone: a wait is at most as long as a token takes to come in, and the
first request after the burst waits that long. Spans end at `2 ^ 64` seconds, and validation asks of
a rate only that it is above zero.
-/

namespace CertIssuer

open Number (Binary binary32 binary64 twoTo)

/-! ### Valid options -/

/-- The rate and the burst are numbers of 32 bits. -/
structure Options.Fits (o : Options) : Prop where
  rate : binary32.Value o.kubeApiQps
  burst : o.kubeApiBurst ≤ Int32.maxValue.toInt

/-- The limiter that options set. -/
def Options.limiter (o : Options) : RateLimiter Binary := .new o.kubeApiQps o.kubeApiBurst

namespace RateLimiter

open Arithmetic (rounded)

/-- A rate above zero: a finite number of 32 bits, or infinite. -/
inductive Rate : Binary → Prop
  | finite {q : Rat} (single : SingleRate q) : Rate (.finite false q)
  | infinite : Rate (.infinite false)

/-- A limiter with a rate above zero and a burst that is counted exactly. -/
structure Positive (l : RateLimiter Binary) (burst : Nat) : Prop where
  rate : Rate l.rate
  burst_eq : l.burst = .finite false burst
  precise : burst ≤ 2 ^ binary64.precision

theorem Rate.rate_new {x : Binary} (h : Rate x) (burst : Int) : (new x burst).rate = x := by
  cases h with
  | finite single => exact RateLimiter.rate_new single burst
  | infinite => rfl

end RateLimiter

namespace Options

open RateLimiter (Rate Positive)

variable {o : Options}

theorem rate_of_validate (fits : o.Fits) (valid : o.validate = .ok ()) : Rate o.kubeApiQps := by
  have hpositive : o.kubeApiQps ≠ .nan ∧ o.kubeApiQps.le .zero = false := by
    unfold validate at valid
    split at valid
    · cases valid
    · split at valid
      · cases valid
      · next h => simpa using h
  obtain ⟨hnan, hzero⟩ := hpositive
  have hrate := fits.rate
  generalize o.kubeApiQps = x at *
  cases hrate with
  | nan => exact absurd rfl hnan
  | infinite negative =>
    cases negative with
    | true => cases hzero
    | false => exact .infinite
  | @finite negative q has small =>
    have hlt : 0 < if negative then -q else q := by
      simpa [Binary.le, Binary.lt, Binary.zero] using hzero
    cases negative with
    | true => exact absurd hlt (not_lt.mpr (neg_nonpos.mpr has.nonneg))
    | false => exact .finite ⟨hlt, has, small⟩

theorem one_le_of_validate (valid : o.validate = .ok ()) : 1 ≤ o.kubeApiBurst := by
  unfold validate at valid
  split at valid
  · cases valid
  · omega

theorem rate_limiter (fits : o.Fits) (valid : o.validate = .ok ()) :
    o.limiter.rate = o.kubeApiQps :=
  (rate_of_validate fits valid).rate_new _

/-- Valid options set a limiter that lets requests through. -/
theorem positive_limiter (fits : o.Fits) (valid : o.validate = .ok ()) :
    Positive o.limiter o.kubeApiBurst.natAbs where
  rate := (rate_limiter fits valid).symm ▸ rate_of_validate fits valid
  burst_eq := RateLimiter.burst_new _ (one_le_of_validate valid) fits.burst
  precise := by
    have hburst := fits.burst
    have := one_le_of_validate valid
    have hhigh : Int32.maxValue.toInt = 2147483647 := by decide
    have hprecision : 2 ^ binary64.precision = 9007199254740992 := by decide
    omega

end Options

namespace RateLimiter

open Arithmetic (rounded)

/-! ### Waits -/

/-- The seconds that those wait who are refused, turn by turn. -/
def waits {α ι : Type} (A : Arithmetic α) (l : RateLimiter α) :
    Bucket α → List (Turn ι) → List α
  | _, [] => []
  | b, turn :: turns =>
    match attempt A l b turn.instant with
    | (.granted, b) => waits A l b turns
    | (.wait seconds, b) => seconds :: waits A l b turns

/-- Whoever asks in the order of time, every wait is a span to sleep for. -/
def SleepsAlways (l : RateLimiter Binary) : Prop :=
  ∀ (ι : Type) (start : Nat) (turns : List (Turn ι)), Ordered start turns →
    ∀ w ∈ waits rounded l (l.full start) turns, (sleepSpan w).isSome = true

/-! ### Tokens in rounded arithmetic -/

/-- A number of tokens that a bucket can hold. -/
inductive Tokens (burst : Nat) : Binary → Prop
  | finite {t : Rat} (has : binary64.Has t) (le_burst : t ≤ burst) : Tokens burst (.finite false t)

variable {l : RateLimiter Binary} {burst : Nat} {b : Bucket Binary} {x : Binary}

theorem rounded_one : rounded.one = .finite false (1 : Nat) :=
  Number.whole_binary64.round_natCast (n := 1) (by decide)

theorem rounded_seconds (n : Nat) : binary64.Rounded (rounded.seconds n) := by
  have hsecond : Binary.ofNat binary64 Span.nanosecondsPerSecond
      = .finite false Span.nanosecondsPerSecond :=
    Number.whole_binary64.round_natCast (by decide)
  have hpositive : (Span.nanosecondsPerSecond : Rat) ≠ 0 := by
    exact_mod_cast (by decide : Span.nanosecondsPerSecond ≠ 0)
  change binary64.Rounded (.add binary64 (.ofNat binary64 _)
    (.div binary64 (.ofNat binary64 _) (.ofNat binary64 Span.nanosecondsPerSecond)))
  rw [hsecond]
  exact (binary64.rounded_round _).add ((binary64.rounded_round _).div hpositive)

/-- No time at an infinite rate brings in what is not a number, and any other time at any rate a
number that is not negative. -/
theorem Rate.mul (h : Rate x) {seconds : Binary} (hs : binary64.Rounded seconds) :
    seconds.mul binary64 x = .nan ∨ binary64.Rounded (seconds.mul binary64 x) := by
  cases h with
  | finite single => exact .inr (hs.mul single.positive.ne')
  | infinite =>
    cases hs with
    | infinite => exact .inr .infinite
    | @finite q has =>
      rw [Binary.mul]
      split
      · exact .inl rfl
      · exact .inr .infinite

theorem Tokens.add (h : Tokens burst x) {came : Binary}
    (hc : came = .nan ∨ binary64.Rounded came) :
    x.add binary64 came = .nan ∨ binary64.Rounded (x.add binary64 came) := by
  cases h with
  | finite has =>
    rcases hc with rfl | hc
    · exact .inl rfl
    · exact .inr (Number.Format.Rounded.add (.finite has) hc)

/-- What does not fit is cut off, and what is not a number counts as a full bucket. -/
theorem tokens_min (hx : x = .nan ∨ binary64.Rounded x)
    (precise : burst ≤ 2 ^ binary64.precision) :
    Tokens burst (x.min (.finite false burst)) := by
  have full : Tokens burst (.finite false burst) :=
    .finite (Number.Format.has_natCast precise (by decide)) le_rfl
  rcases hx with rfl | hx
  · exact full
  · cases hx with
    | infinite => exact full
    | @finite q has =>
      change Tokens burst (if decide ((burst : Rat) < q) then _ else _)
      split
      · exact full
      · next h => exact .finite has (not_lt.mp (of_decide_eq_false (by simpa using h)))

theorem Tokens.refill (hl : l.Positive burst) (h : Tokens burst b.tokens) (now : Nat) :
    Tokens burst (refill rounded l b now).tokens := by
  change Tokens burst (Binary.min _ l.burst)
  rw [hl.burst_eq]
  exact tokens_min (h.add (hl.rate.mul (rounded_seconds _))) hl.precise

theorem tokens_full (hl : l.Positive burst) (start : Nat) : Tokens burst (l.full start).tokens := by
  rw [full, hl.burst_eq]
  exact .finite (Number.Format.has_natCast hl.precise (by decide)) le_rfl

theorem atMost_one (t : Rat) : rounded.atMost rounded.one (.finite false t) = decide (1 ≤ t) := by
  rw [rounded_one]
  simp [rounded, Binary.le, Binary.lt, ← not_le]

/-- Where there is a token it is taken. -/
theorem take_of_one_le {t : Rat} (hone : 1 ≤ t) (now : Nat) :
    take rounded l ⟨.finite false t, now⟩ = (.granted, ⟨binary64.round false (t - 1), now⟩) := by
  rw [take, atMost_one, if_pos (decide_eq_true hone), rounded_one, Nat.cast_one,
    ← binary64.sub_of_le hone]
  rfl

/-- Where there is none the missing part of it is waited for. -/
theorem take_of_lt_one {t : Rat} (hlt : t < 1) (now : Nat) :
    take rounded l ⟨.finite false t, now⟩
      = (.wait (.div binary64 (binary64.round false (1 - t)) l.rate), ⟨.finite false t, now⟩) := by
  rw [take, atMost_one, if_neg (by simpa using hlt), rounded_one, Nat.cast_one,
    ← binary64.sub_of_le hlt.le]
  rfl

theorem Tokens.attempt (hl : l.Positive burst) (h : Tokens burst b.tokens) (now : Nat) :
    Tokens burst (attempt rounded l b now).2.tokens := by
  have hrefill := h.refill hl now
  rw [RateLimiter.attempt]
  generalize RateLimiter.refill rounded l b now = r at *
  obtain ⟨tokens, now⟩ := r
  cases hrefill with
  | @finite t has le_burst =>
    rcases le_or_gt 1 t with hone | hlt
    · -- one less is below a number that the format has
      have hsmall := le_burst.trans_lt (Number.whole_binary64.natCast_lt hl.precise)
      obtain ⟨t', hround, hle⟩ := Number.Format.exists_round_le (by decide) has hsmall
        (sub_le_self t zero_le_one)
      rw [take_of_one_le hone, hround]
      exact .finite (Number.Format.has_of_round hround) (hle.trans le_burst)
    · rw [take_of_lt_one hlt]
      exact .finite has le_burst

/-! ### One wait -/

/-- Who is refused waits for what is missing of a token, which is at most all of it. -/
theorem Tokens.wait (hl : l.Positive burst) (h : Tokens burst b.tokens) {now : Nat} {w : Binary}
    {b' : Bucket Binary} (hwait : RateLimiter.attempt rounded l b now = (.wait w, b')) :
    ∃ d, d ≤ 1 ∧ w = Binary.div binary64 (.finite false d) l.rate := by
  have hrefill := h.refill hl now
  rw [RateLimiter.attempt] at hwait
  generalize RateLimiter.refill rounded l b now = r at *
  obtain ⟨tokens, now⟩ := r
  cases hrefill with
  | @finite t has le_burst =>
    rcases le_or_gt 1 t with hone | hlt
    · rw [take_of_one_le hone] at hwait
      cases hwait
    · have hmissing : 1 - t ≤ (1 : Nat) := by
        rw [Nat.cast_one]
        exact sub_le_self 1 has.nonneg
      obtain ⟨d, hround, hle⟩ := Number.Format.exists_round_le (by decide)
        (Number.Format.has_natCast (by decide) (by decide))
        (Number.whole_binary64.natCast_lt (by decide)) hmissing
      rw [take_of_lt_one hlt, hround] at hwait
      cases hwait
      exact ⟨d, by simpa using hle, rfl⟩

/-- A wait is at most as long as any number of seconds in which a token comes in. -/
theorem SingleRate.exists_wait_le {q d y : Rat} (single : SingleRate q) (hd : d ≤ 1)
    (has : binary64.Has y) (small : y < twoTo binary64.maxExponent) (comes : 1 ≤ y * q) :
    ∃ s, Binary.div binary64 (.finite false d) (.finite false q) = .finite false s
      ∧ binary64.Has s ∧ s ≤ y := by
  have hquotient : d / q ≤ y := (div_le_iff₀ single.positive).mpr (hd.trans comes)
  obtain ⟨s, hround, hle⟩ : ∃ s, binary64.round false (d / q) = .finite false s ∧ s ≤ y :=
    Number.Format.exists_round_le (by decide) has small hquotient
  refine ⟨s, ?_, Number.Format.has_of_round hround, hle⟩
  rw [Binary.div, if_neg single.positive.ne']
  exact hround

/-- At the least rate a token comes in within `2 ^ 149` seconds. -/
theorem SingleRate.comes {q : Rat} (single : SingleRate q) : 1 ≤ twoTo 149 * q := by
  calc (1 : Rat) = twoTo 149 * twoTo (-149) := by rw [← Number.twoTo_add]; rfl
    _ ≤ twoTo 149 * q :=
      mul_le_mul_of_nonneg_left (single.single.twoTo_le single.positive) (Number.twoTo_pos _).le

theorem SingleRate.exists_wait {q d : Rat} (single : SingleRate q) (hd : d ≤ 1) :
    ∃ s, Binary.div binary64 (.finite false d) (.finite false q) = .finite false s
      ∧ binary64.Has s := by
  obtain ⟨s, hs, has, -⟩ := single.exists_wait_le hd (Number.Format.has_twoTo (by decide))
    (Number.twoTo_lt_twoTo.mpr (by decide)) single.comes
  exact ⟨s, hs, has⟩

/-- The greatest number of 64 bits that is below `2 ^ 64`. -/
def longestWait : Rat := (2 ^ 53 - 1 : Nat) * twoTo 11

/-- At a rate of more than one token in all the seconds that fit, one comes in within the longest
wait: the next number of 32 bits is enough larger. -/
theorem SingleRate.comes_longestWait {q : Rat} (single : SingleRate q) (h : twoTo (-64) < q) :
    1 ≤ longestWait * q := by
  obtain ⟨m, e, hm, -, rfl⟩ := single.single.exists_lt (by decide)
  have hexponent : -87 ≤ e := by
    by_contra hlow
    refine absurd h (not_lt.mpr ?_)
    calc (m : Rat) * twoTo e ≤ (2 ^ 24 : Nat) * twoTo (-88) :=
          mul_le_mul (by exact_mod_cast hm.le) (Number.twoTo_le_twoTo.mpr (by omega))
            (Number.twoTo_pos e).le (Nat.cast_nonneg _)
      _ = twoTo (-64) := by rw [← Number.twoTo_natCast, ← Number.twoTo_add]; rfl
  obtain ⟨k, hk⟩ := Number.exists_natCast_mul_twoTo m hexponent
  rw [hk] at h ⊢
  have hpower : twoTo (-64) = (2 ^ 23 : Nat) * twoTo (-87) := by
    rw [← Number.twoTo_natCast, ← Number.twoTo_add]
    rfl
  have hmany : ((2 ^ 23 : Nat) : Rat) < k :=
    lt_of_mul_lt_mul_right (hpower ▸ h) (Number.twoTo_pos _).le
  have hnext : (8388609 : Rat) ≤ k := by exact_mod_cast (show 8388609 ≤ k by exact_mod_cast hmany)
  calc (1 : Rat) ≤ 18446744073709549568 * (8388609 / 2 ^ 87) := by norm_num
    _ ≤ 18446744073709549568 * (k / 2 ^ 87) := by gcongr
    _ = longestWait * (k * twoTo (-87)) := by norm_num [longestWait, Number.twoTo_eq]; ring

theorem longestWait_lt : longestWait < UInt64.size := by
  norm_num [longestWait, Number.twoTo_eq, UInt64.size]

theorem has_longestWait : binary64.Has longestWait :=
  ⟨2 ^ 53 - 1, 11, by decide, by decide, rfl⟩

/-- A wait is finite at every rate, and fits at every rate above the one of a token in all the seconds
that fit. -/
theorem Rate.exists_wait (h : Rate x) {d : Rat} (hd : d ≤ 1) :
    ∃ s, Binary.div binary64 (.finite false d) x = .finite false s ∧ binary64.Has s
      ∧ (Binary.lt (.finite false (twoTo (-64))) x = true → s < UInt64.size) := by
  cases h with
  | infinite =>
    exact ⟨0, rfl, binary64.has_zero, fun _ => by norm_num [UInt64.size]⟩
  | @finite q single =>
    rcases le_or_gt q (twoTo (-64)) with hslow | hfast
    · obtain ⟨s, hs, has⟩ := single.exists_wait hd
      exact ⟨s, hs, has, fun hlt => absurd (of_decide_eq_true hlt) (not_lt.mpr hslow)⟩
    · have hsmall : longestWait < twoTo binary64.maxExponent :=
        (longestWait_lt.trans_eq Span.size_eq_twoTo).trans (Number.twoTo_lt_twoTo.mpr (by decide))
      obtain ⟨s, hs, has, hle⟩ := single.exists_wait_le hd has_longestWait hsmall
        (single.comes_longestWait hfast)
      exact ⟨s, hs, has, fun _ => hle.trans_lt longestWait_lt⟩

/-! ### Runs -/

theorem Tokens.mem_waits {ι : Type} (hl : l.Positive burst) {turns : List (Turn ι)} {w : Binary}
    (h : Tokens burst b.tokens) (mem : w ∈ waits rounded l b turns) :
    ∃ d, d ≤ 1 ∧ w = Binary.div binary64 (.finite false d) l.rate := by
  induction turns generalizing b with
  | nil => cases mem
  | cons turn turns ih =>
    have hafter := h.attempt hl turn.instant
    rw [waits] at mem
    split at mem
    · next b' hattempt =>
      rw [hattempt] at hafter
      exact ih hafter mem
    · next seconds b' hattempt =>
      rw [hattempt] at hafter
      rcases List.mem_cons.mp mem with rfl | mem
      · exact h.wait hl hattempt
      · exact ih hafter mem

/-! ### The first request after the burst -/

/-- Nothing comes in at an instant. -/
theorem refill_instant {q : Rat} (hrate : l.rate = .finite false q) (hl : l.Positive burst) {k : Nat}
    (hk : k ≤ burst) (start : Nat) :
    RateLimiter.refill rounded l ⟨.finite false k, start⟩ start = ⟨.finite false k, start⟩ := by
  have hzero : rounded.seconds 0 = .finite false 0 := by decide +kernel
  have hcame : Binary.mul binary64 (.finite false 0) (.finite false q) = .finite false (0 : Nat) := by
    simp [Binary.mul, Number.Format.round]
  have hsum : Binary.add binary64 (.finite false k) (.finite false (0 : Nat)) = .finite false k :=
    Number.whole_binary64.add_natCast (n := 0) (hk.trans hl.precise)
  have hmin : Binary.min (.finite false k) (.finite false burst) = .finite false k := by
    have hle : (k : Rat) ≤ burst := by exact_mod_cast hk
    simp [Binary.min, Binary.lt, not_lt.mpr hle]
  change (⟨Binary.min (Binary.add binary64 _ (Binary.mul binary64 (rounded.seconds (start - start))
    l.rate)) l.burst, start⟩ : Bucket Binary) = _
  rw [Nat.sub_self, hzero, hrate, hcame, hsum, hl.burst_eq, hmin]

/-- A burst at an instant empties the bucket, and the next request waits for a whole token. -/
theorem waits_replicate {ι : Type} {q : Rat} (hrate : l.rate = .finite false q)
    (hl : l.Positive burst) {k : Nat} (hk : k ≤ burst) (caller : ι) (start : Nat) :
    waits rounded l ⟨.finite false k, start⟩ (List.replicate (k + 1) ⟨caller, start⟩)
      = [.div binary64 (.finite false 1) l.rate] := by
  induction k with
  | zero =>
    have hone : binary64.round false (1 - (0 : Nat)) = .finite false 1 := by
      rw [Nat.cast_zero, sub_zero, ← Nat.cast_one]
      exact Number.whole_binary64.round_natCast (by decide)
    have hattempt : attempt rounded l ⟨.finite false (0 : Nat), start⟩ start
        = (.wait (.div binary64 (.finite false 1) l.rate), ⟨.finite false (0 : Nat), start⟩) := by
      rw [attempt, refill_instant hrate hl hk, take_of_lt_one (by norm_num), hone]
    rw [List.replicate_succ, waits, hattempt]
    rfl
  | succ k ih =>
    have hless : binary64.round false ((k + 1 : Nat) - 1) = .finite false k := by
      rw [Nat.cast_succ, add_sub_cancel_right]
      exact Number.whole_binary64.round_natCast (by have := hl.precise; omega)
    have hattempt : attempt rounded l ⟨.finite false (k + 1 : Nat), start⟩ start
        = (.granted, ⟨.finite false k, start⟩) := by
      have hone : (1 : Rat) ≤ (k + 1 : Nat) := by exact_mod_cast Nat.le_add_left 1 k
      rw [attempt, refill_instant hrate hl hk, take_of_one_le hone, hless]
    rw [List.replicate_succ, waits, hattempt]
    exact ih (by omega)

theorem ordered_replicate {ι : Type} (caller : ι) (start n : Nat) :
    Ordered start (List.replicate n (⟨caller, start⟩ : Turn ι)) := by
  rw [Ordered, List.map_replicate, ← List.replicate_succ, List.pairwise_replicate]
  exact .inr le_rfl

/-- At a rate of at most one token in all the seconds that fit, a whole token takes longer. -/
theorem sleepSpan_of_le {q : Rat} (single : SingleRate q) (slow : q ≤ twoTo (-64)) :
    sleepSpan (.div binary64 (.finite false 1) (.finite false q)) = none := by
  have hlong : twoTo 64 ≤ 1 / q := by
    rw [le_div_iff₀ single.positive]
    calc twoTo 64 * q ≤ twoTo 64 * twoTo (-64) :=
          mul_le_mul_of_nonneg_left slow (Number.twoTo_pos _).le
      _ = 1 := by rw [← Number.twoTo_add]; rfl
  obtain ⟨s, hs, has⟩ := single.exists_wait le_rfl
  have hround : binary64.round false (1 / q) = .finite false s := by
    rw [← hs, Binary.div, if_neg single.positive.ne']
    rfl
  have hle : twoTo 64 ≤ s :=
    Number.Format.le_of_round (by decide) (Number.Format.has_twoTo (by decide)) hlong hround
  rw [hs]
  exact Option.not_isSome_iff_eq_none.mp fun h =>
    not_lt.mpr hle (Span.size_eq_twoTo ▸ (Span.ofBinary?_isSome_iff has).mp h)

/-- Where the first request after the burst can sleep, more than one token comes in within all the
seconds that fit. -/
theorem Positive.fast_of_sleepsAlways (hl : l.Positive burst) (sleeps : SleepsAlways l) :
    Binary.lt (.finite false (twoTo (-64))) l.rate = true := by
  have hrate := hl.rate
  generalize hx : l.rate = x at hrate
  cases hrate with
  | infinite => rfl
  | @finite q single =>
    refine decide_eq_true (not_le.mp fun slow => ?_)
    have hwaits := waits_replicate hx hl le_rfl () 0
    rw [← hl.burst_eq] at hwaits
    have hsleep := sleeps Unit 0 _ (ordered_replicate () 0 (burst + 1)) _
      (by rw [full, hwaits]; exact List.mem_singleton_self _)
    rw [hx, sleepSpan_of_le single slow] at hsleep
    cases hsleep

/-- Valid options set a limiter whose waits are finite and not negative, whoever asks and whenever,
so that a wait is a span to sleep for just if it is below `2 ^ 64` seconds. All waits are, in all
runs in the order of time, just if the rate is above `2 ^ -64`. -/
theorem sleeps_always_iff {o : Options} (fits : o.Fits) (valid : o.validate = .ok ()) :
    (∀ {ι : Type} {start : Nat} {turns : List (Turn ι)} {w : Binary},
        w ∈ waits rounded o.limiter (o.limiter.full start) turns →
          ∃ s : Rat, w = .finite false s ∧ 0 ≤ s ∧ ((sleepSpan w).isSome = true ↔ s < UInt64.size))
      ∧ (SleepsAlways o.limiter
        ↔ Binary.lt (.finite false (twoTo (-64))) o.kubeApiQps = true) := by
  have hl := o.positive_limiter fits valid
  have wait : ∀ {ι : Type} {start : Nat} {turns : List (Turn ι)} {w : Binary},
      w ∈ waits rounded o.limiter (o.limiter.full start) turns →
        ∃ s, w = .finite false s ∧ binary64.Has s
          ∧ (Binary.lt (.finite false (twoTo (-64))) o.limiter.rate = true → s < UInt64.size) := by
    intro ι start turns w mem
    obtain ⟨d, hd, rfl⟩ := (tokens_full hl start).mem_waits hl mem
    exact hl.rate.exists_wait hd
  rw [← o.rate_limiter fits valid]
  refine ⟨fun mem => ?_, hl.fast_of_sleepsAlways, fun fast ι start turns _ w mem => ?_⟩
  · obtain ⟨s, rfl, has, -⟩ := wait mem
    exact ⟨s, rfl, has.nonneg, Span.ofBinary?_isSome_iff has⟩
  · obtain ⟨s, rfl, has, hfast⟩ := wait mem
    exact (Span.ofBinary?_isSome_iff has).mpr (hfast fast)

/-- Options that let one request through at once and further ones at a rate. -/
def paced (rate : Rat) : Options :=
  { Options.default with
    kubeApiQps := .finite false rate, kubeApiBurst := 1, clusterNs := "cert-manager" }

/-- Two requests at the same instant. -/
def together : List (Turn String) := [⟨"a", 0⟩, ⟨"b", 0⟩]

/-- At the least rate of 32 bits above `2 ^ -64` the second of two requests is refused, and can
sleep for nearly all the seconds that fit. -/
theorem sleeps_at_least_fast_rate :
    let o := paced (8388609 * twoTo (-87))
    o.Fits ∧ o.validate = .ok ()
      ∧ waits rounded o.limiter (o.limiter.full 0) together = [.finite false 18446741874686558208]
      ∧ SleepsAlways o.limiter := by
  intro o
  have fits : o.Fits :=
    ⟨.finite false ⟨8388609, -87, by decide, by decide, by norm_num⟩ (by decide +kernel),
      by decide⟩
  have valid : o.validate = .ok () := by decide +kernel
  exact ⟨fits, valid, by decide +kernel, (sleeps_always_iff fits valid).2.mpr (by decide +kernel)⟩

/-- The least positive number of 32 bits is a valid rate, and at this rate the second of two
requests waits for longer than any span: nothing is there to sleep for. -/
theorem wait_beyond_spans :
    let options := CommandLine.parse
      ["--kube-api-qps=1e-45", "--kube-api-burst=1", "--cluster-resource-namespace=cert-manager"]
      fun _ => none
    options.toOption.map (fun o => (o.validate.toOption,
        (waits rounded o.limiter (o.limiter.full 0) together).map sleepSpan))
      = some (some (), [none])
      ∧ Ordered 0 together :=
  ⟨by decide +kernel, by decide⟩

end RateLimiter
end CertIssuer

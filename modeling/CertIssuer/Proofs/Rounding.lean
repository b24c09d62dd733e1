import CertIssuer.Number.Literal
import CertIssuer.Time.Span
import Mathlib.Algebra.Order.Field.Power
import Mathlib.Data.Rat.Floor
import Mathlib.Tactic.FieldSimp
import Mathlib.Tactic.Linarith
import Mathlib.Tactic.Positivity
import Mathlib.Tactic.Ring

/-!
Rounding to a binary format. The numbers of a format are multiples of powers of two with a bounded
multiplier. Rounding ends in one of them, or beyond all of them, and passes none of them, so that it
leaves each of them as it is.
-/

namespace CertIssuer.Number

/-! ### Powers of two -/

theorem twoTo_eq (e : Int) : twoTo e = (2 : Rat) ^ e := by
  unfold twoTo
  split
  · next h =>
    obtain ⟨n, rfl⟩ := Int.eq_ofNat_of_zero_le h
    simp
  · next h =>
    obtain ⟨n, hn⟩ := Int.eq_ofNat_of_zero_le (show 0 ≤ -e by omega)
    obtain rfl : e = -(n : Int) := by omega
    simp [Rat.mkRat_eq_div]

theorem twoTo_pos (e : Int) : 0 < twoTo e := by
  rw [twoTo_eq]
  positivity

theorem twoTo_add (d e : Int) : twoTo (d + e) = twoTo d * twoTo e := by
  rw [twoTo_eq, twoTo_eq, twoTo_eq, zpow_add₀ (by norm_num)]

theorem twoTo_natCast (n : Nat) : twoTo n = ((2 ^ n : Nat) : Rat) := by
  rw [twoTo_eq, zpow_natCast]
  push_cast
  rfl

theorem twoTo_le_twoTo {d e : Int} : twoTo d ≤ twoTo e ↔ d ≤ e := by
  rw [twoTo_eq, twoTo_eq, zpow_le_zpow_iff_right₀ (by norm_num)]

theorem twoTo_lt_twoTo {d e : Int} : twoTo d < twoTo e ↔ d < e := by
  rw [twoTo_eq, twoTo_eq, zpow_lt_zpow_iff_right₀ (by norm_num)]

/-- A multiple of a power of two is one of each lesser power. -/
theorem exists_natCast_mul_twoTo (m : Nat) {d e : Int} (h : d ≤ e) :
    ∃ k : Nat, (m : Rat) * twoTo e = k * twoTo d := by
  obtain ⟨n, hn⟩ := Int.eq_ofNat_of_zero_le (Int.sub_nonneg.mpr h)
  refine ⟨m * 2 ^ n, ?_⟩
  rw [Nat.cast_mul, ← twoTo_natCast, mul_assoc, ← twoTo_add, ← hn, Int.sub_add_cancel]

theorem log2_bounds {n : Nat} (h : n ≠ 0) :
    twoTo n.log2 ≤ n ∧ (n : Rat) < twoTo (n.log2 + 1) := by
  constructor
  · rw [twoTo_natCast]
    exact_mod_cast Nat.log2_self_le h
  · rw [show (n.log2 : Int) + 1 = (n.log2 + 1 : Nat) from rfl, twoTo_natCast]
    exact_mod_cast Nat.lt_log2_self

/-- A positive number lies between two neighbouring powers of two. -/
theorem floorLog2_spec {q : Rat} (hq : 0 < q) :
    twoTo (floorLog2 q) ≤ q ∧ q < twoTo (floorLog2 q + 1) := by
  have hnum : q.num.toNat ≠ 0 := by
    have := Rat.num_pos.mpr hq
    omega
  have hq' : q = (q.num.toNat : Rat) / q.den := by
    conv_lhs => rw [← Rat.num_div_den q]
    have := (Rat.num_pos.mpr hq).le
    congr 1
    exact_mod_cast (Int.toNat_of_nonneg this).symm
  have hden : (0 : Rat) < q.den := by exact_mod_cast q.den_pos
  set a := q.num.toNat
  set d := q.den
  set e : Int := (a.log2 : Int) - (d.log2 : Int) with he
  obtain ⟨ha₁, ha₂⟩ := log2_bounds hnum
  obtain ⟨hd₁, hd₂⟩ := log2_bounds q.den_pos.ne'
  -- the quotient of the two powers is off by less than a factor of two
  have hlow : twoTo (e - 1) < q := by
    rw [hq', lt_div_iff₀ hden]
    calc twoTo (e - 1) * d < twoTo (e - 1) * twoTo (d.log2 + 1) :=
          mul_lt_mul_of_pos_left hd₂ (twoTo_pos _)
      _ = twoTo a.log2 := by rw [← twoTo_add]; congr 1; omega
      _ ≤ a := ha₁
  have hhigh : q < twoTo (e + 1) := by
    rw [hq', div_lt_iff₀ hden]
    calc (a : Rat) < twoTo (a.log2 + 1) := ha₂
      _ = twoTo (e + 1) * twoTo d.log2 := by rw [← twoTo_add]; congr 1; omega
      _ ≤ twoTo (e + 1) * d := mul_le_mul_of_nonneg_left hd₁ (twoTo_pos _).le
  have hfloor : floorLog2 q = if twoTo e ≤ q then e else e - 1 := rfl
  rw [hfloor]
  split
  · next h => exact ⟨h, hhigh⟩
  · next h =>
    refine ⟨hlow.le, ?_⟩
    rw [Int.sub_add_cancel]
    exact not_le.mp h

theorem floorLog2_lt {q : Rat} (hq : 0 < q) {e : Int} (h : q < twoTo e) : floorLog2 q < e :=
  twoTo_lt_twoTo.mp ((floorLog2_spec hq).1.trans_lt h)

/-! ### Whole numbers -/

theorem roundEven_natCast (n : Nat) : roundEven n = n := by
  simp [roundEven, Nat.mod_one]

/-- What is at most a whole number is not rounded above it. -/
theorem roundEven_le {q : Rat} {n : Nat} (h : q ≤ n) : roundEven q ≤ n := by
  have hnum : q.num.toNat ≤ n * q.den := by
    have hq : (q.num : Rat) ≤ (n * q.den : Nat) := by
      rw [← Rat.num_div_den q, div_le_iff₀ (by exact_mod_cast q.den_pos)] at h
      push_cast
      simpa using h
    have : q.num ≤ (n * q.den : Nat) := by exact_mod_cast hq
    omega
  have hdiv : q.num.toNat / q.den ≤ n := Nat.div_le_of_le_mul (by rwa [Nat.mul_comm])
  have hrest : q.num.toNat % q.den ≠ 0 → q.num.toNat / q.den + 1 ≤ n := by
    intro hne
    by_contra hlt
    have hn : n = q.num.toNat / q.den := by omega
    have hmod := Nat.div_add_mod q.num.toNat q.den
    rw [hn, Nat.mul_comm] at hnum
    omega
  have hpos := q.den_pos
  unfold roundEven
  dsimp only
  split
  · exact hdiv
  · split
    · exact hrest (by omega)
    · split
      · exact hdiv
      · exact hrest (by omega)

/-- What is at least a whole number is not rounded below it. -/
theorem le_roundEven {q : Rat} {n : Nat} (h : n ≤ q) : n ≤ roundEven q := by
  have hnum : n * q.den ≤ q.num.toNat := by
    have hq : ((n * q.den : Nat) : Rat) ≤ q.num := by
      rw [← Rat.num_div_den q, le_div_iff₀ (by exact_mod_cast q.den_pos)] at h
      push_cast
      simpa using h
    have : ((n * q.den : Nat) : Int) ≤ q.num := by exact_mod_cast hq
    omega
  have hdiv : n ≤ q.num.toNat / q.den := (Nat.le_div_iff_mul_le q.den_pos).mpr hnum
  unfold roundEven
  dsimp only
  split_ifs <;> omega

/-! ### Numbers of a format -/

/-- An exact magnitude that the format has a number for, unless it is too large. -/
def Format.Has (f : Format) (q : Rat) : Prop :=
  ∃ (m : Nat) (e : Int), m ≤ 2 ^ f.precision ∧ f.minExponent ≤ e ∧ q = m * twoTo e

namespace Format

variable {f : Format} {q : Rat} {e : Int} {negative : Bool}

theorem Has.nonneg (h : f.Has q) : 0 ≤ q := by
  obtain ⟨m, e, _, _, rfl⟩ := h
  have := twoTo_pos e
  positivity

theorem has_zero (f : Format) : f.Has 0 := ⟨0, f.minExponent, Nat.zero_le _, le_rfl, by simp⟩

theorem has_twoTo (low : f.minExponent ≤ e) : f.Has (twoTo e) :=
  ⟨1, e, Nat.one_le_two_pow, low, by rw [Nat.cast_one, one_mul]⟩

/-- The least positive number of the format. -/
theorem Has.twoTo_le (h : f.Has q) (hq : 0 < q) : twoTo f.minExponent ≤ q := by
  obtain ⟨m, e, -, he, rfl⟩ := h
  have hone : (1 : Rat) ≤ m := by
    have hm : m ≠ 0 := by
      rintro rfl
      simp at hq
    exact_mod_cast Nat.one_le_iff_ne_zero.mpr hm
  calc twoTo f.minExponent ≤ twoTo e := twoTo_le_twoTo.mpr he
    _ ≤ m * twoTo e := le_mul_of_one_le_left (twoTo_pos e).le hone

theorem has_natCast {n : Nat} (h : n ≤ 2 ^ f.precision) (low : f.minExponent ≤ 0) : f.Has n :=
  ⟨n, 0, h, low, by simp [twoTo_eq]⟩

/-- The multiplier can be taken below its bound. -/
theorem Has.exists_lt (precise : 0 < f.precision) (h : f.Has q) :
    ∃ (m : Nat) (e : Int), m < 2 ^ f.precision ∧ f.minExponent ≤ e ∧ q = m * twoTo e := by
  obtain ⟨m, e, hm, he, rfl⟩ := h
  rcases hm.lt_or_eq with hlt | rfl
  · exact ⟨m, e, hlt, he, rfl⟩
  · refine ⟨2 ^ (f.precision - 1), e + 1, Nat.pow_lt_pow_right (by omega) (by omega), by omega, ?_⟩
    rw [← twoTo_natCast, ← twoTo_natCast, ← twoTo_add, ← twoTo_add]
    congr 1
    omega

theorem spacing_pos (f : Format) (q : Rat) : 0 < f.spacing q := twoTo_pos _

/-- A number of the format is a whole multiple of the spacing around any lesser number. -/
theorem Has.exists_eq_mul_spacing {y : Rat} (precise : 0 < f.precision) (h : f.Has y) (hq : 0 < q)
    (hle : q ≤ y) : ∃ k : Nat, y = k * f.spacing q := by
  obtain ⟨m, e, hm, he, hme⟩ := h.exists_lt precise
  have hlog : floorLog2 q < f.precision + e := by
    refine floorLog2_lt hq (hle.trans_lt ?_)
    rw [hme, twoTo_add, twoTo_natCast]
    exact mul_lt_mul_of_pos_right (by exact_mod_cast hm) (twoTo_pos e)
  obtain ⟨k, hk⟩ := exists_natCast_mul_twoTo m
    (show max (floorLog2 q - (f.precision - 1)) f.minExponent ≤ e by omega)
  exact ⟨k, hme.trans hk⟩

/-- Under a greater number there is a whole multiple of the spacing around it that is not below the
number of the format. -/
theorem Has.exists_le_mul_spacing {y : Rat} (precise : 0 < f.precision) (h : f.Has y) (hq : 0 < q)
    (hle : y ≤ q) : ∃ k : Nat, y ≤ k * f.spacing q ∧ k * f.spacing q ≤ q := by
  obtain ⟨m, e, hm, he, hme⟩ := h.exists_lt precise
  rcases le_or_gt (max (floorLog2 q - (f.precision - 1)) f.minExponent) e with hfine | hcoarse
  · obtain ⟨k, hk⟩ := exists_natCast_mul_twoTo m hfine
    exact ⟨k, (hme.trans hk).le, (hme.trans hk).symm.trans_le hle⟩
  · -- the number is below the greatest power of two that is not above the other
    have hpower : ((2 ^ (f.precision - 1) : Nat) : Rat) * f.spacing q = twoTo (floorLog2 q) := by
      rw [spacing, ← twoTo_natCast, ← twoTo_add]
      congr 1
      omega
    refine ⟨2 ^ (f.precision - 1), ?_, ?_⟩
    · rw [hpower, hme]
      calc (m : Rat) * twoTo e ≤ (2 ^ f.precision : Nat) * twoTo e :=
            mul_le_mul_of_nonneg_right (by exact_mod_cast hm.le) (twoTo_pos e).le
        _ = twoTo (f.precision + e) := by rw [twoTo_add, twoTo_natCast]
        _ ≤ twoTo (floorLog2 q) := twoTo_le_twoTo.mpr (by omega)
    · rw [hpower]
      exact (floorLog2_spec hq).1

/-- What is at most a number of the format is not rounded above it. -/
theorem exists_round_le {y : Rat} (precise : 0 < f.precision) (h : f.Has y)
    (small : y < twoTo f.maxExponent) (hle : q ≤ y) :
    ∃ q', f.round negative q = .finite negative q' ∧ q' ≤ y := by
  unfold round
  split
  · exact ⟨0, rfl, h.nonneg⟩
  · next hq =>
    have hpos : 0 < q := not_le.mp hq
    obtain ⟨k, hk⟩ := h.exists_eq_mul_spacing precise hpos hle
    have hround : (roundEven (q / f.spacing q) : Rat) * f.spacing q ≤ y := by
      have hmultiple : roundEven (q / f.spacing q) ≤ k :=
        roundEven_le ((div_le_iff₀ (f.spacing_pos q)).mpr (hk ▸ hle))
      rw [hk]
      exact mul_le_mul_of_nonneg_right (by exact_mod_cast hmultiple) (f.spacing_pos q).le
    dsimp only
    rw [if_neg (not_le.mpr (hround.trans_lt small))]
    exact ⟨_, rfl, hround⟩

/-- What is at least a number of the format is not rounded below it. -/
theorem le_of_round {y q' : Rat} (precise : 0 < f.precision) (h : f.Has y) (hle : y ≤ q)
    (hround : f.round negative q = .finite negative q') : y ≤ q' := by
  unfold round at hround
  split at hround
  · next hq =>
    cases hround
    exact hle.trans hq
  · next hq =>
    obtain ⟨k, hk, hkq⟩ := h.exists_le_mul_spacing precise (not_le.mp hq) hle
    have hmultiple : k ≤ roundEven (q / f.spacing q) :=
      le_roundEven ((le_div_iff₀ (f.spacing_pos q)).mpr hkq)
    dsimp only at hround
    split at hround
    · cases hround
    · cases hround
      exact hk.trans (mul_le_mul_of_nonneg_right (by exact_mod_cast hmultiple)
        (f.spacing_pos q).le)

/-- Each number of the format is left as it is. -/
theorem round_of_has (precise : 0 < f.precision) (h : f.Has q) (small : q < twoTo f.maxExponent) :
    f.round negative q = .finite negative q := by
  obtain ⟨q', hround, hle⟩ : ∃ q', f.round negative q = .finite negative q' ∧ q' ≤ q :=
    exists_round_le precise h small le_rfl
  rw [hround, le_antisymm hle (le_of_round precise h le_rfl hround)]

/-- What a magnitude is rounded to is a number of the format. -/
theorem has_of_round {q' : Rat}
    (h : f.round negative q = .finite negative q') : f.Has q' := by
  unfold round at h
  split at h
  · cases h
    exact f.has_zero
  · next hq =>
    have hpos : 0 < q := not_le.mp hq
    dsimp only at h
    split at h
    · cases h
    · cases h
      refine ⟨_, _, roundEven_le ?_, le_max_right _ _, rfl⟩
      rw [spacing, div_le_iff₀ (twoTo_pos _), ← twoTo_natCast, ← twoTo_add]
      refine (floorLog2_spec hpos).2.le.trans (twoTo_le_twoTo.mpr ?_)
      omega

/-- A sum or a difference that is not negative is rounded as a magnitude. -/
theorem ofRat_of_nonneg (f : Format) (h : 0 ≤ q) : Binary.ofRat f false q = f.round false q := by
  rw [Binary.ofRat, if_neg (not_lt.mpr h)]
  split
  · next hzero => rw [round, if_pos hzero.le]
  · rfl

theorem sub_of_le (f : Format) {p : Rat} (h : q ≤ p) :
    Binary.sub f (.finite false p) (.finite false q) = f.round false (p - q) := by
  rw [← f.ofRat_of_nonneg (sub_nonneg.mpr h), sub_eq_add_neg]
  rfl

end Format

/-- A number of the format, of either sign. -/
inductive Format.Value (f : Format) : Binary → Prop
  | nan : f.Value .nan
  | infinite (negative : Bool) : f.Value (.infinite negative)
  | finite (negative : Bool) {q : Rat} (has : f.Has q) (small : q < twoTo f.maxExponent) :
    f.Value (.finite negative q)

/-- A number that a magnitude can be rounded to. -/
inductive Format.Rounded (f : Format) : Binary → Prop
  | infinite : f.Rounded (.infinite false)
  | finite {q : Rat} (h : f.Has q) : f.Rounded (.finite false q)

namespace Format

variable {f : Format} {x y : Binary}

theorem rounded_round (f : Format) (q : Rat) : f.Rounded (f.round false q) := by
  cases hround : f.round false q with
  | nan => unfold round at hround; grind
  | infinite negative =>
    obtain rfl : negative = false := by unfold round at hround; grind
    exact .infinite
  | finite negative q' =>
    obtain rfl : negative = false := by unfold round at hround; grind
    exact .finite (has_of_round hround)

theorem rounded_literal (f : Format) (l : Literal) : f.Rounded (l.round f false) := by
  unfold Literal.round
  split
  · exact .finite f.has_zero
  · dsimp only
    split
    · exact .infinite
    · split
      · exact .finite f.has_zero
      · exact f.rounded_round _

theorem Rounded.add (hx : f.Rounded x) (hy : f.Rounded y) : f.Rounded (x.add f y) := by
  cases hx with
  | infinite => cases hy <;> exact .infinite
  | @finite p hp =>
    cases hy with
    | infinite => exact .infinite
    | @finite q hq =>
      change f.Rounded (.ofRat f false (p + q))
      rw [f.ofRat_of_nonneg (add_nonneg hp.nonneg hq.nonneg)]
      exact f.rounded_round _

theorem Rounded.mul (hx : f.Rounded x) {q : Rat} (hq : q ≠ 0) :
    f.Rounded (x.mul f (.finite false q)) := by
  cases hx with
  | infinite =>
    rw [Binary.mul, if_neg hq]
    exact .infinite
  | finite _ => exact f.rounded_round _

theorem Rounded.div (hx : f.Rounded x) {q : Rat} (hq : q ≠ 0) :
    f.Rounded (x.div f (.finite false q)) := by
  cases hx with
  | infinite => exact .infinite
  | finite _ =>
    rw [Binary.div, if_neg hq]
    exact f.rounded_round _

end Format

/-! ### Exact whole numbers -/

/-- A format in which whole numbers are exact as long as their bits are no more than it has. -/
structure Format.Whole (f : Format) : Prop where
  precise : 0 < f.precision
  low : f.minExponent ≤ 0
  high : (f.precision : Int) < f.maxExponent

theorem whole_binary64 : binary64.Whole := ⟨by decide, by decide, by decide⟩

namespace Format.Whole

variable {f : Format} {m n : Nat} {negative : Bool}

theorem natCast_lt (whole : f.Whole) (h : n ≤ 2 ^ f.precision) : n < twoTo f.maxExponent :=
  calc (n : Rat) ≤ (2 ^ f.precision : Nat) := by exact_mod_cast h
    _ = twoTo f.precision := (twoTo_natCast _).symm
    _ < twoTo f.maxExponent := twoTo_lt_twoTo.mpr whole.high

theorem round_natCast (whole : f.Whole) (h : n ≤ 2 ^ f.precision) :
    f.round negative n = .finite negative n :=
  round_of_has whole.precise (has_natCast h whole.low) (whole.natCast_lt h)

theorem mul_natCast (whole : f.Whole) (h : m * n ≤ 2 ^ f.precision) :
    Binary.mul f (.finite false m) (.finite false n) = .finite false (m * n : Nat) := by
  rw [Binary.mul, ← Nat.cast_mul]
  exact whole.round_natCast h

theorem add_natCast (whole : f.Whole) (h : m + n ≤ 2 ^ f.precision) :
    Binary.add f (.finite false m) (.finite false n) = .finite false (m + n : Nat) := by
  change Binary.ofRat f false (m + n) = _
  rw [← Nat.cast_add, f.ofRat_of_nonneg (Nat.cast_nonneg _)]
  exact whole.round_natCast h

end Format.Whole

/-- A whole literal with no more bits than the format has is read exactly. -/
theorem round_literal_natCast {n : Nat} (h : n ≤ 2 ^ 53) :
    (⟨n, 0⟩ : Literal).round binary64 false = .finite false n := by
  have hlength : decimalLength n ≤ 16 := by
    rw [decimalLength, Nat.length_toDigits_le_iff (by decide) (by decide)]
    omega
  unfold Literal.round
  split
  · next hzero =>
    have hzero : n = 0 := hzero
    rw [hzero]
    rfl
  · dsimp only
    rw [if_neg (by unfold decimalHorizon; omega), if_neg (by unfold decimalHorizon; omega)]
    rw [show tenTo 0 = 1 from rfl, mul_one]
    exact whole_binary64.round_natCast h

end CertIssuer.Number

/-! ### Spans -/

namespace CertIssuer.Span

open Number

theorem ofBinary?_natCast {n : Nat} (h : n < UInt64.size) :
    ofBinary? (.finite false n) = some (.ofSeconds n.toUInt64) := by
  have hsmall : ¬ (UInt64.size : Rat) ≤ n := by
    rw [not_le]
    exact_mod_cast h
  have hnano : (n : Rat) * (nanosecondsPerSecond : Nat) = (n * nanosecondsPerSecond : Nat) := by
    push_cast
    rfl
  have hpos : 0 < nanosecondsPerSecond := by decide
  rw [ofBinary?, Bool.false_and, if_neg (by decide), if_neg hsmall, hnano, roundEven_natCast,
    ofNanoseconds?, Nat.mul_div_cancel _ hpos, if_pos h, Nat.mul_mod_left]
  rfl

theorem size_eq_twoTo : (UInt64.size : Rat) = twoTo 64 := by
  norm_num [twoTo_eq, UInt64.size]

/-- Every number of the format below the greatest span is some span. -/
theorem exists_ofBinary? {q : Rat} (has : binary64.Has q) (small : q < UInt64.size) :
    ∃ d, ofBinary? (.finite false q) = some d := by
  -- beyond the precision there are whole numbers only
  have hle : q ≤ (UInt64.size - 1 : Nat) := by
    obtain ⟨m, e, hm, _, rfl⟩ := has
    rcases Int.lt_or_le e 0 with hneg | hnonneg
    · calc (m : Rat) * twoTo e ≤ (2 ^ 53 : Nat) * twoTo 0 :=
            mul_le_mul (by exact_mod_cast hm) (twoTo_le_twoTo.mpr hneg.le) (twoTo_pos e).le
              (by positivity)
        _ ≤ (UInt64.size - 1 : Nat) := by norm_num [twoTo, UInt64.size]
    · obtain ⟨k, rfl⟩ := Int.eq_ofNat_of_zero_le hnonneg
      rw [twoTo_natCast, ← Nat.cast_mul] at small ⊢
      exact_mod_cast Nat.le_sub_one_of_lt (by exact_mod_cast small)
  have hround : roundEven (q * (nanosecondsPerSecond : Nat))
      ≤ (UInt64.size - 1) * nanosecondsPerSecond := by
    refine roundEven_le ?_
    push_cast
    exact mul_le_mul_of_nonneg_right hle (by positivity)
  have hfits : roundEven (q * (nanosecondsPerSecond : Nat)) / nanosecondsPerSecond
      < UInt64.size :=
    calc roundEven (q * (nanosecondsPerSecond : Nat)) / nanosecondsPerSecond
        ≤ UInt64.size - 1 := Nat.div_le_of_le_mul (by rwa [Nat.mul_comm])
      _ < UInt64.size := by decide
  rw [ofBinary?, Bool.false_and, if_neg (by decide), if_neg (not_le.mpr small), ofNanoseconds?,
    if_pos hfits]
  exact ⟨_, rfl⟩

theorem ofBinary?_isSome_iff {q : Rat} (has : binary64.Has q) :
    (ofBinary? (.finite false q)).isSome = true ↔ q < UInt64.size := by
  constructor
  · intro h
    by_contra hlarge
    rw [ofBinary?, Bool.false_and, if_neg (by decide), if_pos (not_lt.mp hlarge)] at h
    cases h
  · intro small
    exact Option.isSome_iff_exists.mpr (exists_ofBinary? has small)

end CertIssuer.Span

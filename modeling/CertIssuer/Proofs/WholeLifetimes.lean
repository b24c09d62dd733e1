import CertIssuer.Proofs.Lifetimes
import CertIssuer.Proofs.Periods

/-!
Lifetimes in whole hours, minutes and seconds. Each product and each partial sum is a whole number
no greater than the total. So as long as the total is exact in a binary number nothing is rounded on
the way, however long the list is and however long its numbers are.
-/

namespace CertIssuer.Text

theorem dropWhile_of_not {p : Char → Bool} {cs : List Char} (h : ∀ c ∈ cs, p c = false) :
    cs.dropWhile p = cs := by
  cases cs with
  | nil => rfl
  | cons c cs => exact List.dropWhile_cons_of_neg (by simp [h c List.mem_cons_self])

theorem trim_of_not_blank {s : String} (h : ∀ c ∈ s.toList, isBlank c = false) : trim s = s := by
  rw [trim, trimStart, dropWhile_of_not h, trimEnd,
    dropWhile_of_not fun c hc => h c (List.mem_reverse.mp hc), List.reverse_reverse,
    String.ofList_toList]

end CertIssuer.Text

namespace CertIssuer.Lifetime

open Number

/-! ### Whole components -/

/-- The units of whole seconds. -/
inductive WholeUnit where
  | hour
  | minute
  | second

namespace WholeUnit

/-- How a unit is spelled. -/
def letter : WholeUnit → Char
  | hour => 'h'
  | minute => 'm'
  | second => 's'

/-- A unit among all units. -/
def unit : WholeUnit → TimeUnit
  | hour => .hour
  | minute => .minute
  | second => .second

/-- A unit in seconds. -/
def seconds : WholeUnit → Nat
  | hour => 3600
  | minute => 60
  | second => 1

theorem spelling (u : WholeUnit) : Spelling [u.letter] u.unit := by cases u <;> constructor

theorem letter_not_blank (u : WholeUnit) : Text.isBlank u.letter = false := by cases u <;> decide

theorem seconds_pos (u : WholeUnit) : 0 < u.seconds := by cases u <;> decide

theorem unit_seconds (u : WholeUnit) : u.unit.seconds = .finite false u.seconds := by
  cases u <;> exact round_literal_natCast (by decide)

end WholeUnit

/-- A whole number, in digits, of hours, minutes or seconds. -/
structure WholePart where
  digits : List Char
  unit : WholeUnit
  nonempty : digits ≠ []
  plain : ∀ c ∈ digits, isDigit c = true

namespace WholePart

/-- How a part is written. -/
def text (p : WholePart) : List Char := p.digits ++ [p.unit.letter]

/-- A part in seconds. -/
def seconds (p : WholePart) : Nat := ofDigits p.digits * p.unit.seconds

/-- A part among all components. -/
def component (p : WholePart) : Component := ⟨literalOf p.digits [], p.unit.unit⟩

theorem isComponent (p : WholePart) :
    IsComponent .plain (p.digits, [p.unit.letter]) p.component :=
  ⟨.whole p.nonempty p.plain, p.unit.spelling⟩

/-- The product of a number and its unit is exact. -/
theorem component_seconds (p : WholePart) (exact : p.seconds ≤ 2 ^ 53) :
    p.component.seconds = .finite false p.seconds := by
  have hdigits : ofDigits p.digits ≤ 2 ^ 53 :=
    (Nat.le_mul_of_pos_right _ p.unit.seconds_pos).trans exact
  rw [Component.seconds, component, literalOf_nil, round_literal_natCast hdigits,
    WholeUnit.unit_seconds]
  exact whole_binary64.mul_natCast exact

theorem not_blank (p : WholePart) : ∀ c ∈ p.text, Text.isBlank c = false := by
  intro c hc
  rcases List.mem_append.mp hc with hc | hc
  · have hdigit := isDigit_iff.mp (p.plain c hc)
    simp only [Text.isBlank, Text.inRanges, Text.blankRanges, List.any_cons, List.any_nil,
      Bool.or_eq_false_iff, Bool.and_eq_false_iff, decide_eq_false_iff_not, and_true]
    omega
  · rw [List.mem_singleton.mp hc]
    exact p.unit.letter_not_blank

end WholePart

/-! ### Lists of them -/

/-- Parts one after the other. -/
def wholeText (ps : List WholePart) : String := String.ofList (ps.flatMap WholePart.text)

/-- The exact total in seconds. -/
def wholeSeconds (ps : List WholePart) : Nat := (ps.map WholePart.seconds).sum

theorem spelled_whole {ps : List WholePart} (nonempty : ps ≠ []) :
    Spelled .plain (ps.flatMap WholePart.text) (ps.map fun p => (p.digits, [p.unit.letter]))
      (ps.map WholePart.component) where
  nonempty := by simpa using nonempty
  each := by
    rw [List.forall₂_map_left_iff, List.forall₂_map_right_iff, List.forall₂_same]
    exact fun p _ => p.isComponent
  cover := by
    rw [textOf, List.flatMap_map]
    rfl

/-- Every partial sum is exact. -/
theorem foldl_whole (ps : List WholePart) {n : Nat} (exact : n + wholeSeconds ps ≤ 2 ^ 53) :
    (ps.map WholePart.component).foldl (fun sum c => Binary.add binary64 sum c.seconds)
        (.finite false n)
      = .finite false (n + wholeSeconds ps : Nat) := by
  induction ps generalizing n with
  | nil => rfl
  | cons p ps ih =>
    have hsplit : n + wholeSeconds (p :: ps) = n + p.seconds + wholeSeconds ps := by
      simp only [wholeSeconds, List.map_cons, List.sum_cons]
      omega
    rw [hsplit] at exact ⊢
    rw [List.map_cons, List.foldl_cons, p.component_seconds (by omega),
      whole_binary64.add_natCast (by rw [show binary64.precision = 53 from rfl]; omega), ih exact]

theorem total_whole {ps : List WholePart} (exact : wholeSeconds ps ≤ 2 ^ 53) :
    total (ps.map WholePart.component) = .finite false (wholeSeconds ps : Nat) := by
  have h := foldl_whole ps (n := 0) (by omega)
  rwa [Nat.zero_add] at h

theorem parse_whole_eq {ps : List WholePart} (nonempty : ps ≠ [])
    (exact : wholeSeconds ps ≤ 2 ^ 53) :
    parse (wholeText ps) = .ok (.ofSeconds (wholeSeconds ps).toUInt64) := by
  have spelled := spelled_whole nonempty
  have htrim : Text.trim (wholeText ps) = wholeText ps := Text.trim_of_not_blank fun c hc => by
    rw [wholeText, String.toList_ofList] at hc
    obtain ⟨p, _, hcp⟩ := List.mem_flatMap.mp hc
    exact p.not_blank c hcp
  have hsize : wholeSeconds ps < UInt64.size := exact.trans_lt (by decide)
  have hspan : Span.ofBinary? (total (ps.map WholePart.component))
      = some (.ofSeconds (wholeSeconds ps).toUInt64) := by
    rw [total_whole exact, Span.ofBinary?_natCast hsize]
  -- the text begins with a digit, and so with no sign
  obtain ⟨c, rest, hcons, hdigit⟩ :
      ∃ c rest, ps.flatMap WholePart.text = c :: rest ∧ isDigit c = true := by
    obtain ⟨p, ps, rfl⟩ := List.exists_cons_of_ne_nil nonempty
    obtain ⟨c, cs, hdigits⟩ := List.exists_cons_of_ne_nil p.nonempty
    exact ⟨c, _, by rw [List.flatMap_cons, WholePart.text, hdigits]; rfl,
      p.plain c (hdigits ▸ List.mem_cons_self)⟩
  have hlist : (wholeText ps).toList = c :: rest := by rw [wholeText, String.toList_ofList, hcons]
  have hunsigned : unsigned (wholeText ps).toList = ps.flatMap WholePart.text := by
    rw [hlist, hcons, unsigned.eq_2]
    rintro _ ⟨rfl⟩
    exact absurd hdigit (by decide)
  rw [parse_eq_iff, htrim]
  refine .unsigned ?_ ?_ (.sum (hunsigned ▸ spelled) (by rw [ofBinary?_total, hspan]; rfl) hspan)
  · rintro hempty
    rw [hempty] at hlist
    cases hlist
  · rw [hlist]
    rintro ⟨rfl⟩
    exact absurd hdigit (by decide)

/-- Whole hours, minutes and seconds in any order are read exactly, their days are the exact total
in days rounded down, and it is the total alone that decides. -/
theorem parse_whole {ps : List WholePart} (nonempty : ps ≠ [])
    (exact : wholeSeconds ps ≤ 2 ^ 53) :
    ∃ d, parse (wholeText ps) = .ok d
      ∧ d.seconds.toNat = wholeSeconds ps ∧ d.nanoseconds = 0
      ∧ (Period.days d).toInt = (wholeSeconds ps / 86400 : Nat)
      ∧ ∀ qs, qs ≠ [] → wholeSeconds qs = wholeSeconds ps →
        parse (wholeText qs) = .ok d ∧ Provision.validity (some (wholeText qs))
          = Provision.validity (some (wholeText ps)) := by
  have hsize : wholeSeconds ps < UInt64.size := exact.trans_lt (by decide)
  have hparse := parse_whole_eq nonempty exact
  have hseconds : (wholeSeconds ps).toUInt64.toNat = wholeSeconds ps :=
    UInt64.toNat_ofNat_of_lt hsize
  refine ⟨_, hparse, hseconds, rfl, ?_, fun qs hqs same => ?_⟩
  · rw [Period.toInt_days, Span.ofSeconds, hseconds]
  · have hother : parse (wholeText qs) = .ok (.ofSeconds (wholeSeconds ps).toUInt64) := by
      rw [parse_whole_eq hqs (same ▸ exact), same]
    exact ⟨hother, by rw [Provision.validity, Provision.validity, hother, hparse]⟩

/-- A day in hours with leading zeros, and the same in minutes and seconds. -/
theorem parse_whole_day :
    ∃ d, parse "0024h" = .ok d ∧ d.seconds.toNat = 86400 ∧ (Period.days d).toInt = 1
      ∧ parse "60s1439m" = .ok d := by
  let hours : WholePart := ⟨['0', '0', '2', '4'], .hour, by decide, List.all_eq_true.mp (by decide)⟩
  let seconds : WholePart := ⟨['6', '0'], .second, by decide, List.all_eq_true.mp (by decide)⟩
  let minutes : WholePart :=
    ⟨['1', '4', '3', '9'], .minute, by decide, List.all_eq_true.mp (by decide)⟩
  have hhours : wholeText [hours] = "0024h" := by decide
  have hother : wholeText [seconds, minutes] = "60s1439m" := by decide
  have htotal : wholeSeconds [hours] = 86400 := by decide
  obtain ⟨d, hparse, hseconds, -, hdays, hsame⟩ :=
    parse_whole (List.cons_ne_nil hours []) (by decide)
  rw [hhours] at hparse
  rw [htotal] at hseconds hdays
  exact ⟨d, hparse, hseconds, hdays, hother ▸ (hsame [seconds, minutes] (by simp) (by decide)).1⟩

end CertIssuer.Lifetime

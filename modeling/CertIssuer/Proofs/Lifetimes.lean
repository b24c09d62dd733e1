import CertIssuer.Proofs.Rounding
import CertIssuer.Validity.Lifetime
import Mathlib.Data.List.Forall2
import Mathlib.Data.List.TakeWhile

/-!
The grammar of lifetimes. A lifetime is one component after the other, each a decimal number and a
unit. No unit begins with a character that a number can have, so a number ends where its unit
begins, and the reader finds the components.

Main statement: what is read is what the grammar says, for every text.
-/

namespace CertIssuer.Number

theorem isDigit_iff {c : Char} : isDigit c = true ↔ 48 ≤ c.toNat ∧ c.toNat ≤ 57 := by
  simp only [isDigit, digit?, Option.isSome_ite, Char.le_def, UInt32.le_iff_toNat_le]
  rfl

end CertIssuer.Number

namespace CertIssuer.Lifetime

open Number

/-! ### Numbers -/

/-- A class of decimal digits. Of the characters that a component has otherwise, which are ASCII or
one of the two signs for micro, it holds none. -/
structure DigitClass where
  holds : Char → Bool
  ascii : ∀ c : Char, c.toNat < 128 → holds c = isDigit c
  micro : holds '\u00b5' = false
  mu : holds '\u03bc' = false

/-- The ASCII digits alone. -/
def DigitClass.plain : DigitClass := ⟨isDigit, fun _ _ => rfl, by decide, by decide⟩

variable {d : DigitClass}

/-- Whether a number can have this character. -/
def DigitClass.orPoint (d : DigitClass) (c : Char) : Bool := d.holds c || c == '.'

/-- A decimal number: its text, its digits before the point and those behind it. -/
inductive Amount (d : DigitClass) : List Char → List Char → List Char → Prop
  | whole {w : List Char} (nonempty : w ≠ []) (digits : ∀ c ∈ w, d.holds c) : Amount d w w []
  | point {w f : List Char} (nonempty : w ≠ []) (digits : ∀ c ∈ w, d.holds c)
      (more : ∀ c ∈ f, d.holds c) : Amount d (w ++ '.' :: f) w f
  | fraction {f : List Char} (nonempty : f ≠ []) (more : ∀ c ∈ f, d.holds c) :
      Amount d ('.' :: f) [] f

/-- The literal with these digits before and behind its point. -/
def literalOf (w f : List Char) : Literal := ⟨ofDigits (w ++ f), -(f.length : Int)⟩

theorem literalOf_nil (w : List Char) : literalOf w [] = ⟨ofDigits w, 0⟩ := by
  simp [literalOf]

theorem DigitClass.orPoint_ascii (d : DigitClass) {c : Char} (h : c.toNat < 128) :
    d.orPoint c = DigitClass.plain.orPoint c := by
  rw [orPoint, d.ascii c h, orPoint, plain]

theorem Amount.ne_nil {x w f : List Char} (h : Amount d x w f) : x ≠ [] := by
  cases h with
  | whole nonempty _ => exact nonempty
  | point | fraction => simp

theorem Amount.orPoint {x w f : List Char} (h : Amount d x w f) : ∀ c ∈ x, d.orPoint c := by
  intro c hc
  unfold DigitClass.orPoint
  cases h with
  | whole _ digits => simp [digits c hc]
  | point _ digits more =>
    rcases List.mem_append.mp hc with hc | hc
    · simp [digits c hc]
    · rcases List.mem_cons.mp hc with rfl | hc
      · simp
      · simp [more c hc]
  | fraction _ more =>
    rcases List.mem_cons.mp hc with rfl | hc
    · simp
    · simp [more c hc]

/-! ### Units -/

/-- How the units are spelled. -/
inductive Spelling : List Char → TimeUnit → Prop
  | nanosecond : Spelling ['n', 's'] .nanosecond
  | microsecond : Spelling ['u', 's'] .microsecond
  | microSign : Spelling ['\u00b5', 's'] .microsecond
  | mu : Spelling ['\u03bc', 's'] .microsecond
  | millisecond : Spelling ['m', 's'] .millisecond
  | second : Spelling ['s'] .second
  | minute : Spelling ['m'] .minute
  | hour : Spelling ['h'] .hour

/-- No unit is empty or begins with a character that a number can have. -/
theorem head_unit {y : List Char} {u : TimeUnit} (h : Spelling y u) (d : DigitClass)
    (rest : List Char) : ∀ c ∈ (y ++ rest).head?, d.orPoint c = false := by
  have ascii {c : Char} (h : c.toNat < 128) (hplain : DigitClass.plain.orPoint c = false) :
      d.orPoint c = false := by
    rw [d.orPoint_ascii h, hplain]
  have micro : d.orPoint '\u00b5' = false := by simp [DigitClass.orPoint, d.micro]
  have mu : d.orPoint '\u03bc' = false := by simp [DigitClass.orPoint, d.mu]
  cases h <;> rintro _ ⟨rfl⟩
  case microSign => exact micro
  case mu => exact mu
  all_goals exact ascii (by decide) (by decide)

/-! ### Texts -/

/-- The two parts of a component's text and what they stand for. -/
inductive IsComponent (d : DigitClass) : List Char × List Char → Component → Prop
  | mk {x w f y : List Char} {u : TimeUnit} (amount : Amount d x w f) (unit : Spelling y u) :
      IsComponent d (x, y) ⟨literalOf w f, u⟩

/-- The text of components whose parts are given. -/
def textOf (tiles : List (List Char × List Char)) : List Char := tiles.flatMap fun t => t.1 ++ t.2

@[simp] theorem textOf_nil : textOf [] = [] := rfl

@[simp] theorem textOf_cons (t : List Char × List Char) (tiles : List (List Char × List Char)) :
    textOf (t :: tiles) = t.1 ++ (t.2 ++ textOf tiles) := by
  simp [textOf]

/-- A text is spelled by components, at least one. -/
structure Spelled (d : DigitClass) (u : List Char) (tiles : List (List Char × List Char))
    (parts : List Component) : Prop where
  nonempty : tiles ≠ []
  each : List.Forall₂ (IsComponent d) tiles parts
  cover : u = textOf tiles

/-- What follows a unit is nothing, or a number. -/
theorem head_textOf {tiles : List (List Char × List Char)} {parts : List Component}
    (h : List.Forall₂ (IsComponent d) tiles parts) : ∀ c ∈ (textOf tiles).head?, d.orPoint c := by
  cases h with
  | nil => simp
  | @cons t part tiles parts hpart rest =>
    obtain @⟨x, w, f, y, u, amount, -⟩ := hpart
    obtain ⟨c, x, rfl⟩ := List.exists_cons_of_ne_nil amount.ne_nil
    rintro _ ⟨rfl⟩
    exact amount.orPoint c List.mem_cons_self

theorem length_textOf_lt {t : List Char × List Char} {part : Component} (h : IsComponent d t part)
    (tiles : List (List Char × List Char)) :
    (textOf tiles).length < (textOf (t :: tiles)).length := by
  obtain ⟨amount, -⟩ := h
  have := List.length_pos_of_ne_nil amount.ne_nil
  simp only [textOf_cons, List.length_append]
  omega

/-! ### Spans of characters -/

section Spans

variable {p : Char → Bool} {x rest : List Char}

theorem takeWhile_append_stop (hx : ∀ c ∈ x, p c) (stop : ∀ c ∈ rest.head?, p c = false) :
    (x ++ rest).takeWhile p = x := by
  rw [List.takeWhile_append_of_pos hx]
  cases rest with
  | nil => exact List.append_nil x
  | cons c rest => rw [List.takeWhile_cons_of_neg (by simp [stop c rfl]), List.append_nil]

theorem dropWhile_append_stop (hx : ∀ c ∈ x, p c) (stop : ∀ c ∈ rest.head?, p c = false) :
    (x ++ rest).dropWhile p = rest := by
  rw [List.dropWhile_append_of_pos hx]
  cases rest with
  | nil => rfl
  | cons c rest => rw [List.dropWhile_cons_of_neg (by simp [stop c rfl])]

end Spans

/-! ### The reader -/

theorem readAmount_append {x w f rest : List Char} (h : Amount .plain x w f)
    (stop : ∀ c ∈ rest.head?, DigitClass.plain.orPoint c = false) :
    readAmount (x ++ rest) = some (literalOf w f, rest) := by
  have hrest : ∀ c ∈ rest.head?, isDigit c = false := fun c hc =>
    (Bool.or_eq_false_iff.mp (stop c hc)).1
  have hpoint {cs : List Char} : ∀ e ∈ ('.' :: cs).head?, isDigit e = false := by
    rintro _ ⟨rfl⟩
    decide
  have take {xs after : List Char} (digits : ∀ c ∈ xs, DigitClass.plain.holds c)
      (stop : ∀ c ∈ after.head?, isDigit c = false) :
      (xs ++ after).takeWhile isDigit = xs ∧ (xs ++ after).dropWhile isDigit = after :=
    ⟨takeWhile_append_stop digits stop, dropWhile_append_stop digits stop⟩
  unfold readAmount
  cases h with
  | whole nonempty digits =>
    obtain ⟨c, w, rfl⟩ := List.exists_cons_of_ne_nil nonempty
    rw [(take digits hrest).1, (take digits hrest).2, literalOf_nil]
    cases rest with
    | nil => rfl
    | cons e rest =>
      have hne : e ≠ '.' := fun he => by simpa [he, DigitClass.orPoint] using stop e rfl
      simp [hne]
  | point nonempty digits more =>
    obtain ⟨c, w, rfl⟩ := List.exists_cons_of_ne_nil nonempty
    rw [List.append_assoc, show '.' :: f ++ rest = '.' :: (f ++ rest) from rfl,
      (take digits hpoint).1, (take digits hpoint).2]
    simp only [(take more hrest).1, (take more hrest).2]
    rfl
  | fraction nonempty more =>
    obtain ⟨c, f, rfl⟩ := List.exists_cons_of_ne_nil nonempty
    rw [show '.' :: c :: f ++ rest = '.' :: (c :: f ++ rest) from rfl,
      List.takeWhile_cons_of_neg (by decide), List.dropWhile_cons_of_neg (by decide)]
    simp only [(take more hrest).1, (take more hrest).2]
    rfl

theorem amount_of_readAmount {cs rest : List Char} {l : Literal}
    (h : readAmount cs = some (l, rest)) :
    ∃ x w f, Amount .plain x w f ∧ l = literalOf w f ∧ cs = x ++ rest := by
  have digits {xs : List Char} : ∀ c ∈ xs.takeWhile isDigit, DigitClass.plain.holds c :=
    fun c hc => List.mem_takeWhile_imp hc
  have whole (xs : List Char) : xs = xs.takeWhile isDigit ++ xs.dropWhile isDigit :=
    List.takeWhile_append_dropWhile.symm
  unfold readAmount at h
  split at h
  · next more htake hdrop =>
    split at h
    · cases h
    · next fraction nonempty =>
      cases h
      refine ⟨_, [], _, .fraction nonempty digits, rfl, ?_⟩
      rw [List.cons_append, ← whole more, whole cs, htake, hdrop, List.nil_append]
  · cases h
  · next more hdrop nonempty =>
    cases h
    refine ⟨_, _, _, .point nonempty digits digits, rfl, ?_⟩
    rw [List.append_assoc, List.cons_append, ← whole more, ← hdrop, ← whole cs]
  · next nonempty _ _ =>
    cases h
    exact ⟨_, _, _, .whole nonempty digits, (literalOf_nil _).symm, whole cs⟩

theorem readUnit_append {y rest : List Char} {u : TimeUnit} (h : Spelling y u)
    (stop : rest.head? ≠ some 's') : readUnit (y ++ rest) = some (u, rest) := by
  cases h with
  | minute =>
    -- only minutes can be taken for the beginning of another unit
    cases rest with
    | nil => rfl
    | cons c rest =>
      have hne : c ≠ 's' := fun hc => stop (by rw [hc]; rfl)
      simp [readUnit, hne]
  | _ => rfl

theorem spelling_of_readUnit {cs rest : List Char} {u : TimeUnit}
    (h : readUnit cs = some (u, rest)) : ∃ y, Spelling y u ∧ cs = y ++ rest := by
  unfold readUnit at h
  split at h
  all_goals cases h
  · exact ⟨_, .nanosecond, rfl⟩
  · exact ⟨_, .microsecond, rfl⟩
  · exact ⟨_, .microSign, rfl⟩
  · exact ⟨_, .mu, rfl⟩
  · exact ⟨_, .millisecond, rfl⟩
  · exact ⟨_, .second, rfl⟩
  · exact ⟨_, .minute, rfl⟩
  · exact ⟨_, .hour, rfl⟩

theorem readComponent_append {t : List Char × List Char} {part : Component} {rest : List Char}
    (h : IsComponent .plain t part) (next : ∀ c ∈ rest.head?, DigitClass.plain.orPoint c) :
    readComponent (t.1 ++ (t.2 ++ rest)) = some (part, rest) := by
  obtain @⟨x, w, f, y, u, amount, unit⟩ := h
  have hnext : rest.head? ≠ some 's' := fun hs =>
    absurd (next 's' hs) (by decide)
  simp [readComponent, readAmount_append amount (head_unit unit .plain rest),
    readUnit_append unit hnext]

theorem component_of_readComponent {cs rest : List Char} {part : Component}
    (h : readComponent cs = some (part, rest)) :
    ∃ t, IsComponent .plain t part ∧ cs = t.1 ++ (t.2 ++ rest) := by
  obtain ⟨⟨l, between⟩, hamount, h⟩ := Option.bind_eq_some_iff.mp h
  obtain ⟨⟨u, after⟩, hunit, h⟩ := Option.bind_eq_some_iff.mp h
  cases h
  obtain ⟨x, w, f, amount, rfl, rfl⟩ := amount_of_readAmount hamount
  obtain ⟨y, unit, rfl⟩ := spelling_of_readUnit hunit
  exact ⟨(x, y), ⟨amount, unit⟩, rfl⟩

theorem readComponents_textOf {tiles : List (List Char × List Char)} {parts : List Component}
    (h : List.Forall₂ (IsComponent .plain) tiles parts) {fuel : Nat}
    (enough : (textOf tiles).length ≤ fuel) : readComponents fuel (textOf tiles) = some parts := by
  induction h generalizing fuel with
  | nil => rw [textOf_nil, readComponents]
  | @cons t part tiles parts hpart hrest ih =>
    -- a component is not empty, so the fuel for a text lasts to its end
    have hlt := length_textOf_lt hpart tiles
    cases fuel with
    | zero => omega
    | succ fuel =>
      have hread := readComponent_append hpart (head_textOf hrest)
      rw [← textOf_cons] at hread
      obtain ⟨c, cs, hcs⟩ := List.exists_cons_of_length_pos (Nat.zero_lt_of_lt hlt)
      rw [hcs] at hread ⊢
      rw [readComponents.eq_3 _ _ (by simp), hread]
      simp [@ih fuel (by omega)]

theorem tiles_of_readComponents {fuel : Nat} {cs : List Char} {parts : List Component}
    (h : readComponents fuel cs = some parts) :
    ∃ tiles, List.Forall₂ (IsComponent .plain) tiles parts ∧ cs = textOf tiles := by
  induction fuel generalizing cs parts with
  | zero =>
    cases cs with
    | nil =>
      cases h
      exact ⟨[], .nil, rfl⟩
    | cons c cs => cases h
  | succ fuel ih =>
    cases cs with
    | nil =>
      cases h
      exact ⟨[], .nil, rfl⟩
    | cons c cs =>
      obtain ⟨⟨part, rest⟩, hpart, h⟩ := Option.bind_eq_some_iff.mp h
      obtain ⟨others, hothers, rfl⟩ := Option.map_eq_some_iff.mp h
      obtain ⟨t, component, hsplit⟩ := component_of_readComponent hpart
      obtain ⟨tiles, hall, rfl⟩ := ih hothers
      exact ⟨t :: tiles, .cons component hall, by rw [hsplit, textOf_cons]⟩

/-- The reader finds the components that spell a text, and nothing else. -/
theorem components_eq_some {u : List Char} {parts : List Component} :
    components u = some parts ↔ ∃ tiles, Spelled .plain u tiles parts := by
  unfold components
  constructor
  · intro h
    split at h
    · cases h
    · next hne =>
      obtain ⟨tiles, each, rfl⟩ := tiles_of_readComponents h
      exact ⟨tiles, fun hnil => hne (by simp [hnil]), each, rfl⟩
  · rintro ⟨tiles, nonempty, each, rfl⟩
    rw [if_neg, readComponents_textOf each (Nat.le_refl _)]
    cases each with
    | nil => exact absurd rfl nonempty
    | cons hpart _ =>
      obtain ⟨amount, -⟩ := hpart
      simp [amount.ne_nil]

/-! ### Sums -/

theorem TimeUnit.seconds_finite (u : TimeUnit) : ∃ q, u.seconds = .finite false q ∧ q ≠ 0 := by
  have hround : binary64.Rounded u.seconds := binary64.rounded_literal u.literal
  have hvalue : u.seconds ≠ .infinite false ∧ u.seconds ≠ .finite false 0 := by
    cases u <;> decide +kernel
  generalize u.seconds = x at *
  cases hround with
  | infinite => exact absurd rfl hvalue.1
  | @finite q _ => exact ⟨q, rfl, fun hq => hvalue.2 (by rw [hq])⟩

theorem Component.rounded_seconds (c : Component) : binary64.Rounded c.seconds := by
  obtain ⟨q, hunit, hq⟩ := c.unit.seconds_finite
  rw [seconds, hunit]
  exact (binary64.rounded_literal c.number).mul hq

theorem rounded_total (parts : List Component) : binary64.Rounded (total parts) := by
  suffices h : ∀ sum, binary64.Rounded sum →
      binary64.Rounded (parts.foldl (fun sum c => Binary.add binary64 sum c.seconds) sum) from
    h _ (.finite binary64.has_zero)
  induction parts with
  | nil => exact fun _ hsum => hsum
  | cons c parts ih => exact fun _ hsum => ih _ (hsum.add c.rounded_seconds)

/-- The least number of seconds that is too large for a span. -/
def tooLong : Binary := .finite false (2 ^ 64)

/-- A sum below the bound is some span, and any other is none. -/
theorem ofBinary?_total (parts : List Component) :
    (total parts).lt tooLong = (Span.ofBinary? (total parts)).isSome := by
  have rounded := rounded_total parts
  generalize total parts = sum at rounded
  cases rounded with
  | infinite => rfl
  | @finite q has =>
    have hsize : ((UInt64.size : Nat) : Rat) = 2 ^ 64 := by norm_num [UInt64.size]
    rcases lt_or_ge q (UInt64.size : Nat) with hlt | hge
    · obtain ⟨span, hspan⟩ := Span.exists_ofBinary? has hlt
      rw [hsize] at hlt
      simp [hspan, Binary.lt, tooLong, hlt]
    · have hnone : Span.ofBinary? (.finite false q) = none := by
        rw [Span.ofBinary?, Bool.false_and, if_neg (by decide), if_pos hge]
      rw [hsize] at hge
      simp [hnone, Binary.lt, tooLong, hge]

/-! ### What is read -/

/-- A text without one plus sign at its front. -/
def unsigned : List Char → List Char
  | '+' :: rest => rest
  | cs => cs

/-- What a text is read as that has no minus sign and, without its plus sign, is `u`. -/
inductive ReadsUnsigned (t : String) (u : List Char) : Except Fault Span → Prop
  | zero (h : u = ['0']) : ReadsUnsigned t u (.ok .zero)
  | sum {tiles : List (List Char × List Char)} {parts : List Component} {span : Span}
      (spelled : Spelled .plain u tiles parts) (small : (total parts).lt tooLong = true)
      (converted : Span.ofBinary? (total parts) = some span) : ReadsUnsigned t u (.ok span)
  | large {tiles : List (List Char × List Char)} {parts : List Component}
      (spelled : Spelled .plain u tiles parts) (large : (total parts).lt tooLong = false) :
      ReadsUnsigned t u (.error (.invalid t))
  | other (h : u ≠ ['0']) (none : ∀ tiles parts, ¬ Spelled .plain u tiles parts) :
      ReadsUnsigned t u (.error (.invalid t))

/-- What a text without white space around it is read as. -/
inductive Reads (t : String) : Except Fault Span → Prop
  | empty (h : t = "") : Reads t (.error .empty)
  | negative (h : t.toList.head? = some '-') : Reads t (.error (.negative t))
  | unsigned {r : Except Fault Span} (nonempty : t ≠ "") (h : t.toList.head? ≠ some '-')
      (read : ReadsUnsigned t (unsigned t.toList) r) : Reads t r

/-- The bare zero is not spelled by components: it has no unit. -/
theorem components_zero : components ['0'] = none := by decide

/-- The answer to a text `t` that is `u` without its plus sign. -/
def answer (t : String) (u : List Char) : Except Fault Span :=
  match readUnsigned u with
  | some span => .ok span
  | none => .error (.invalid t)

theorem answer_eq_iff {t : String} {u : List Char} {r : Except Fault Span} :
    answer t u = r ↔ ReadsUnsigned t u r := by
  by_cases hzero : u = ['0']
  · have unspelled {tiles : List (List Char × List Char)} {parts : List Component} :
        ¬ Spelled .plain u tiles parts := fun h => by
      have := components_eq_some.mpr ⟨_, h⟩
      rw [hzero, components_zero] at this
      cases this
    rw [answer, readUnsigned, if_pos hzero]
    constructor
    · rintro rfl
      exact .zero hzero
    · intro h
      cases h with
      | zero => rfl
      | sum spelled | large spelled => exact absurd spelled unspelled
      | other h => exact absurd hzero h
  · rw [answer, readUnsigned, if_neg hzero]
    constructor
    · rintro rfl
      cases hcomponents : components u with
      | none =>
        refine .other hzero fun tiles parts spelled => ?_
        rw [components_eq_some.mpr ⟨_, spelled⟩] at hcomponents
        cases hcomponents
      | some parts =>
        obtain ⟨tiles, spelled⟩ := components_eq_some.mp hcomponents
        have hsum := ofBinary?_total parts
        rw [Option.bind_some]
        cases hspan : Span.ofBinary? (total parts) with
        | none => exact .large spelled (by rw [hsum, hspan, Option.isSome_none])
        | some span => exact .sum spelled (by rw [hsum, hspan, Option.isSome_some]) hspan
    · intro h
      cases h with
      | zero h => exact absurd h hzero
      | sum spelled small converted =>
        rw [components_eq_some.mpr ⟨_, spelled⟩, Option.bind_some, converted]
      | large spelled large =>
        rw [ofBinary?_total, Option.isSome_eq_false_iff, Option.isNone_iff_eq_none] at large
        rw [components_eq_some.mpr ⟨_, spelled⟩, Option.bind_some, large]
      | other _ unspelled =>
        have hnone : components u = none := Option.eq_none_iff_forall_ne_some.mpr fun parts h => by
          obtain ⟨tiles, spelled⟩ := components_eq_some.mp h
          exact unspelled tiles parts spelled
        rw [hnone, Option.bind_none]

/-- Neither an empty text nor one with a minus sign is looked at further; any other is without its
plus sign. -/
theorem parse_unsigned {text : String} (nonempty : Text.trim text ≠ "")
    (h : (Text.trim text).toList.head? ≠ some '-') :
    parse text = answer (Text.trim text) (unsigned (Text.trim text).toList) := by
  have hnil : (Text.trim text).toList ≠ [] := mt String.toList_eq_nil_iff.mp nonempty
  rw [parse]
  split
  · next heq => exact absurd heq hnil
  · next heq => exact absurd (by rw [heq, List.head?_cons]) h
  · next heq =>
    rw [heq]
    rfl
  · next plus =>
    rw [unsigned.eq_2 _ plus]
    rfl

/-- For every text, what is read is what the grammar says. -/
theorem parse_eq_iff {text : String} {r : Except Fault Span} :
    parse text = r ↔ Reads (Text.trim text) r := by
  by_cases hempty : Text.trim text = ""
  · have hread : parse text = .error .empty := by simp [parse, hempty]
    rw [hread, hempty]
    constructor
    · rintro rfl
      exact .empty rfl
    · intro h
      cases h with
      | empty => rfl
      | negative h => simp at h
      | unsigned nonempty => exact absurd rfl nonempty
  · by_cases hnegative : (Text.trim text).toList.head? = some '-'
    · obtain ⟨rest, hrest⟩ := List.head?_eq_some_iff.mp hnegative
      have hread : parse text = .error (.negative (Text.trim text)) := by simp [parse, hrest]
      rw [hread]
      constructor
      · rintro rfl
        exact .negative hnegative
      · intro h
        cases h with
        | empty h => exact absurd h hempty
        | negative => rfl
        | unsigned _ h => exact absurd hnegative h
    · rw [parse_unsigned hempty hnegative, answer_eq_iff]
      constructor
      · exact .unsigned hempty hnegative
      · intro h
        cases h with
        | empty h => exact absurd h hempty
        | negative h => exact absurd h hnegative
        | unsigned _ _ read => exact read

end CertIssuer.Lifetime

import CertIssuer.Proofs.Expressions
import CertIssuer.Proofs.Lifetimes

/-!
Lifetimes by two regular expressions. One says which texts are lifetimes, and the other finds their
components. They are matched in different ways, the one against a whole text and the other again and
again from left to right, but agree on how a text is split.

Main statement: the grammar, the two expressions and the reader say the same of every text.
-/

namespace CertIssuer.Lifetime

open Number
open Text (Expression)

/-! ### The expressions -/

/-- Digits, which may be followed by a point and more digits, or a point and digits. -/
def number (d : DigitClass) : Expression :=
  .alt (.seq (.plus (.one d.holds)) (.optional (.seq (.one (· == '.')) (.many (.one d.holds)))))
    (.seq (.one (· == '.')) (.plus (.one d.holds)))

/-- The spellings of the units. One that another begins with comes after it. -/
def spellings : List (List Char × TimeUnit) :=
  [(['n', 's'], .nanosecond), (['u', 's'], .microsecond), (['\u00b5', 's'], .microsecond),
    (['\u03bc', 's'], .microsecond), (['m', 's'], .millisecond), (['s'], .second), (['m'], .minute),
    (['h'], .hour)]

/-- One of the units. -/
def unit : Expression := .firstOf (spellings.map fun s => .literally s.1)

/-- Components, at least one. -/
def format (d : DigitClass) : Expression := .plus (.seq (number d) unit)

/-- The matches of a number and a unit in a text, from left to right. -/
def componentMatches (d : DigitClass) (u : List Char) : List (List Char × List Char) :=
  Expression.searchPairs (number d) unit u.length u

variable {d : DigitClass}

theorem describes_number {x : List Char} :
    (number d).Describes x ↔ ∃ w f, Amount d x w f := by
  have point {y : List Char} : (Expression.one (· == '.')).Describes y ↔ y = ['.'] := by
    simp [Expression.describes_one]
  simp only [number, Expression.describes_alt, Expression.describes_seq,
    Expression.describes_optional, Expression.describes_plus_one, Expression.describes_many_one,
    point]
  constructor
  · rintro (⟨w, _, ⟨nonempty, digits⟩, ⟨_, f, rfl, more, rfl⟩ | rfl, rfl⟩
      | ⟨_, f, rfl, ⟨nonempty, more⟩, rfl⟩)
    · exact ⟨w, f, .point nonempty digits more⟩
    · rw [List.append_nil]
      exact ⟨w, [], .whole nonempty digits⟩
    · exact ⟨[], f, .fraction nonempty more⟩
  · rintro ⟨w, f, h⟩
    cases h with
    | whole nonempty digits =>
      exact .inl ⟨_, [], ⟨nonempty, digits⟩, .inr rfl, (List.append_nil _).symm⟩
    | point nonempty digits more =>
      exact .inl ⟨_, _, ⟨nonempty, digits⟩, .inl ⟨_, _, rfl, more, rfl⟩, rfl⟩
    | fraction nonempty more => exact .inr ⟨_, _, rfl, ⟨nonempty, more⟩, rfl⟩

theorem mem_spellings {y : List Char} {u : TimeUnit} : (y, u) ∈ spellings ↔ Spelling y u := by
  constructor
  · intro h
    simp only [spellings, List.mem_cons, List.not_mem_nil, or_false, Prod.mk.injEq] at h
    rcases h with ⟨rfl, rfl⟩ | ⟨rfl, rfl⟩ | ⟨rfl, rfl⟩ | ⟨rfl, rfl⟩ | ⟨rfl, rfl⟩ | ⟨rfl, rfl⟩
      | ⟨rfl, rfl⟩ | ⟨rfl, rfl⟩
    all_goals constructor
  · intro h
    cases h <;> simp [spellings]

theorem describes_unit {y : List Char} : unit.Describes y ↔ ∃ u, Spelling y u := by
  simp only [unit, Expression.describes_firstOf, List.mem_map, exists_exists_and_eq_and,
    Expression.describes_literally]
  constructor
  · rintro ⟨⟨_, u⟩, h, rfl⟩
    exact ⟨u, mem_spellings.mp h⟩
  · rintro ⟨u, h⟩
    exact ⟨_, mem_spellings.mpr h, rfl⟩

theorem describes_component {x : List Char} :
    (Expression.seq (number d) unit).Describes x
      ↔ ∃ t part, IsComponent d t part ∧ x = t.1 ++ t.2 := by
  rw [Expression.describes_seq]
  constructor
  · rintro ⟨x, y, hx, hy, rfl⟩
    obtain ⟨w, f, amount⟩ := describes_number.mp hx
    obtain ⟨u, spelling⟩ := describes_unit.mp hy
    exact ⟨(x, y), _, ⟨amount, spelling⟩, rfl⟩
  · rintro ⟨_, _, ⟨amount, spelling⟩, rfl⟩
    exact ⟨_, _, describes_number.mpr ⟨_, _, amount⟩, describes_unit.mpr ⟨_, spelling⟩, rfl⟩

/-- The one expression fits a text just if components spell it. -/
theorem fits_format {u : List Char} :
    (format d).fits u = true ↔ ∃ tiles parts, Spelled d u tiles parts := by
  rw [Expression.fits_iff, format, Expression.describes_plus]
  constructor
  · rintro ⟨xs, nonempty, hxs, rfl⟩
    obtain ⟨tiles, parts, each, cover⟩ : ∃ tiles parts, List.Forall₂ (IsComponent d) tiles parts
        ∧ xs = tiles.map fun t => t.1 ++ t.2 := by
      clear nonempty
      induction xs with
      | nil => exact ⟨[], [], .nil, rfl⟩
      | cons x xs ih =>
        obtain ⟨hx, hrest⟩ := List.forall_mem_cons.mp hxs
        obtain ⟨t, part, component, rfl⟩ := describes_component.mp hx
        obtain ⟨tiles, parts, each, rfl⟩ := ih hrest
        exact ⟨t :: tiles, part :: parts, .cons component each, rfl⟩
    refine ⟨tiles, parts, ?_, each, by rw [cover, textOf, List.flatMap_def]⟩
    rintro rfl
    exact nonempty cover
  · rintro ⟨tiles, parts, nonempty, each, rfl⟩
    refine ⟨tiles.map fun t => t.1 ++ t.2, by simpa using nonempty, ?_,
      by rw [textOf, List.flatMap_def]⟩
    clear nonempty
    induction each with
    | nil => simp
    | cons component _ ih =>
      exact List.forall_mem_cons.mpr ⟨describes_component.mpr ⟨_, _, component, rfl⟩, ih⟩

/-! ### Searching -/

/-- A unit with nothing behind it that it could go on with is matched as a whole. -/
theorem head_ways_unit {y rest : List Char} {u : TimeUnit} (h : Spelling y u)
    (stop : rest.head? ≠ some 's') : (unit.ways (y ++ rest)).head? = some (y, rest) := by
  cases h with
  | minute =>
    cases rest with
    | nil => rfl
    | cons c rest =>
      have hne : c ≠ 's' := fun hc => stop (by rw [hc]; rfl)
      simp [unit, spellings, Expression.firstOf, Expression.literally, Expression.ways, hne,
        Text.Way.after]
  | _ => rfl

/-- At a component the search finds it, and nothing shorter or longer. -/
theorem firstPair_component {t : List Char × List Char} {part : Component} {rest : List Char}
    (h : IsComponent d t part) (next : ∀ c ∈ rest.head?, d.orPoint c) :
    (number d).firstPair unit (t.1 ++ (t.2 ++ rest)) = some (t, rest) := by
  obtain @⟨x, w, f, y, u, amount, spelling⟩ := h
  have hnext : rest.head? ≠ some 's' := fun hs => by
    have := next 's' hs
    rw [d.orPoint_ascii (by decide)] at this
    exact absurd this (by decide)
  refine Expression.firstPair_of_forced (describes_number.mpr ⟨w, f, amount⟩) ?_
    (head_ways_unit spelling hnext)
  intro x' r' hways hunit
  obtain ⟨hsplit, hx'⟩ := Expression.mem_ways.mp hways
  obtain ⟨⟨y', after⟩, hy'⟩ := List.exists_mem_of_ne_nil _ hunit
  obtain ⟨rfl, hdescribes⟩ := Expression.mem_ways.mp hy'
  obtain ⟨w', f', amount'⟩ := describes_number.mp hx'
  obtain ⟨u', spelling'⟩ := describes_unit.mp hdescribes
  -- both numbers are all of the text up to the first character that no number has
  calc x' = (x' ++ (y' ++ after)).takeWhile d.orPoint :=
        (takeWhile_append_stop amount'.orPoint (head_unit spelling' d after)).symm
    _ = (x ++ (y ++ rest)).takeWhile d.orPoint := by rw [hsplit]
    _ = x := takeWhile_append_stop amount.orPoint (head_unit spelling d rest)

/-- The search finds the components that a text is spelled by, one after the other. -/
theorem searchPairs_textOf {tiles : List (List Char × List Char)} {parts : List Component}
    (each : List.Forall₂ (IsComponent d) tiles parts) {fuel : Nat}
    (enough : (textOf tiles).length ≤ fuel) :
    Expression.searchPairs (number d) unit fuel (textOf tiles) = tiles := by
  induction each generalizing fuel with
  | nil => cases fuel <;> rfl
  | @cons t part tiles parts hpart hrest ih =>
    have hlt := length_textOf_lt hpart tiles
    cases fuel with
    | zero => omega
    | succ fuel =>
      have hfirst := firstPair_component hpart (head_textOf hrest)
      rw [← textOf_cons] at hfirst
      obtain ⟨c, cs, hcs⟩ := List.exists_cons_of_length_pos (Nat.zero_lt_of_lt hlt)
      rw [hcs] at hfirst ⊢
      simp only [Expression.searchPairs, hfirst, ih (Nat.le_of_lt_succ (hlt.trans_le enough))]

theorem Spelled.componentMatches {u : List Char} {tiles : List (List Char × List Char)}
    {parts : List Component} (h : Spelled d u tiles parts) : componentMatches d u = tiles := by
  rw [Lifetime.componentMatches, h.cover]
  exact searchPairs_textOf h.each (Nat.le_refl _)

/-! ### Reading by the matches -/

/-- Adds what a match stands for to a sum. -/
def addMatch (sum : Binary) (t : List Char × List Char) : Option Binary := do
  let number ← (readBinary binary64 (String.ofList t.1)).toOption
  let found ← spellings.find? fun s => s.1 == t.2
  some (Binary.add binary64 sum (Binary.mul binary64 number found.2.seconds))

/-- Reads a lifetime without its sign: the sum over the matches in a text that has the format. -/
def readMatches (d : DigitClass) (u : List Char) : Option Span :=
  if u = ['0'] then some .zero
  else if (format d).fits u then
    ((componentMatches d u).foldlM addMatch Binary.zero).bind Span.ofBinary?
  else none

theorem lowerAscii_orPoint {c : Char} (h : d.orPoint c = true) : lowerAscii c = c := by
  rw [lowerAscii, if_neg]
  rintro ⟨hA, hZ⟩
  rw [Char.le_def, UInt32.le_iff_toNat_le] at hA hZ
  have hlow : 65 ≤ c.toNat := hA
  have hhigh : c.toNat ≤ 90 := hZ
  rw [d.orPoint_ascii (by omega), DigitClass.orPoint, DigitClass.plain, Bool.or_eq_true] at h
  rcases h with h | h
  · have := (isDigit_iff.mp h).2
    omega
  · rw [beq_iff_eq] at h
    subst h
    exact absurd hlow (by decide)

/-- A number is read as a literal, since it is no word and has no sign. -/
theorem readBinary_number {x : List Char} (nonempty : x ≠ []) (chars : ∀ c ∈ x, d.orPoint c) :
    (readBinary binary64 (String.ofList x)).toOption
      = (readLiteral x).map (Literal.round binary64 false) := by
  obtain ⟨c, cs, rfl⟩ := List.exists_cons_of_ne_nil nonempty
  have hc := chars c List.mem_cons_self
  have absent (e : Char) (ascii : e.toNat < 128) (h : DigitClass.plain.orPoint e = false) :
      c ≠ e := by
    rintro rfl
    rw [d.orPoint_ascii ascii, h] at hc
    cases hc
  have noWord (word : String) (e : Char) (es : List Char) (hword : word.toList = e :: es)
      (hne : c ≠ e) : String.ofList ((c :: cs).map lowerAscii) ≠ word := by
    intro heq
    rw [← heq, String.toList_ofList, List.map_cons, lowerAscii_orPoint hc] at hword
    exact hne (List.cons.inj hword).1
  have hi := absent 'i' (by decide) (by decide)
  have hn := absent 'n' (by decide) (by decide)
  have hread : Number.readUnsigned binary64 false (c :: cs)
      = (readLiteral (c :: cs)).map (Literal.round binary64 false) := by
    rw [Number.readUnsigned]
    simp only [noWord "inf" 'i' _ rfl hi, noWord "infinity" 'i' _ rfl hi, noWord "nan" 'n' _ rfl hn,
      or_self, if_false]
  rw [readBinary, String.toList_ofList]
  split
  · next heq => cases heq
  · next heq => exact absurd (List.cons.inj heq).1 (absent '+' (by decide) (by decide))
  · next heq => exact absurd (List.cons.inj heq).1 (absent '-' (by decide) (by decide))
  · simp only [hread]
    cases readLiteral (c :: cs) <;> rfl

/-- A literal is the number of a component, with an exponent behind it. -/
theorem readLiteral_eq (cs : List Char) :
    readLiteral cs = (readAmount cs).bind fun (l, rest) =>
      (readExponent rest).map fun e => ⟨l.mantissa, e + l.exponent⟩ := by
  unfold readLiteral readAmount
  rcases cs.takeWhile isDigit with _ | ⟨c, whole⟩ <;>
    rcases cs.dropWhile isDigit with _ | ⟨e, rest⟩
  · simp
  · by_cases he : e = '.'
    · subst he
      simp only []
      rcases rest.takeWhile isDigit with _ | ⟨c, fraction⟩ <;> simp [Int.sub_eq_add_neg]
    · simp [he]
  · simp
  · by_cases he : e = '.'
    · subst he
      simp [Int.sub_eq_add_neg]
    · simp [he]

/-- A number in ASCII digits is read as its literal, and one with any other digit is not read. -/
theorem readLiteral_eq_some {x : List Char} {l : Literal} (chars : ∀ c ∈ x, d.orPoint c) :
    readLiteral x = some l ↔ ∃ w f, Amount .plain x w f ∧ l = literalOf w f := by
  rw [readLiteral_eq]
  constructor
  · intro h
    obtain ⟨⟨l', rest⟩, hamount, h⟩ := Option.bind_eq_some_iff.mp h
    obtain ⟨e, hexponent, rfl⟩ := Option.map_eq_some_iff.mp h
    obtain ⟨x, w, f, amount, rfl, rfl⟩ := amount_of_readAmount hamount
    cases rest with
    | nil =>
      cases hexponent
      exact ⟨w, f, by rwa [List.append_nil], by simp [literalOf]⟩
    | cons c rest =>
      -- there is no exponent, as no character of a number is a letter
      have hc := chars c (List.mem_append_right x List.mem_cons_self)
      have hne : lowerAscii c ≠ 'e' := by
        rw [lowerAscii_orPoint hc]
        rintro rfl
        rw [d.orPoint_ascii (by decide)] at hc
        exact absurd hc (by decide)
      simp only [readExponent, if_pos hne] at hexponent
      cases hexponent
  · rintro ⟨w, f, amount, rfl⟩
    have hread : readAmount (x ++ []) = some (literalOf w f, []) :=
      readAmount_append amount (by simp)
    rw [List.append_nil] at hread
    simp [hread, readExponent]

/-- A match adds the seconds of its component, and fails if its digits are not ASCII ones. -/
theorem addMatch_eq_some {t : List Char × List Char} {part : Component} (h : IsComponent d t part)
    {sum sum' : Binary} :
    addMatch sum t = some sum'
      ↔ ∃ c, IsComponent .plain t c ∧ sum' = Binary.add binary64 sum c.seconds := by
  have found : ∀ s ∈ spellings, (spellings.find? fun r => r.1 == s.1) = some s := by decide
  obtain @⟨x, w, f, y, u, amount, spelling⟩ := h
  simp only [addMatch, readBinary_number amount.ne_nil amount.orPoint,
    found _ (mem_spellings.mpr spelling)]
  constructor
  · intro h
    obtain ⟨_, hnumber, h⟩ := Option.bind_eq_some_iff.mp h
    obtain ⟨l, hliteral, rfl⟩ := Option.map_eq_some_iff.mp hnumber
    obtain ⟨w', f', amount', rfl⟩ := (readLiteral_eq_some amount.orPoint).mp hliteral
    cases h
    exact ⟨_, ⟨amount', spelling⟩, rfl⟩
  · rintro ⟨_, @⟨_, w', f', _, u', amount', spelling'⟩, rfl⟩
    have hunit := (found (y, u) (mem_spellings.mpr spelling)).symm.trans
      (found (y, u') (mem_spellings.mpr spelling'))
    obtain rfl : u = u' := congrArg Prod.snd (Option.some.inj hunit)
    rw [(readLiteral_eq_some amount.orPoint).mpr ⟨w', f', amount', rfl⟩]
    rfl

theorem foldlM_addMatch {tiles : List (List Char × List Char)} {parts : List Component}
    (each : List.Forall₂ (IsComponent d) tiles parts) {sum sum' : Binary} :
    tiles.foldlM addMatch sum = some sum'
      ↔ ∃ cs, List.Forall₂ (IsComponent .plain) tiles cs
        ∧ sum' = cs.foldl (fun sum c => Binary.add binary64 sum c.seconds) sum := by
  induction each generalizing sum with
  | nil =>
    rw [List.foldlM_nil]
    constructor
    · rintro ⟨rfl⟩
      exact ⟨[], .nil, rfl⟩
    · rintro ⟨_, ⟨⟩, rfl⟩
      rfl
  | cons component _ ih =>
    rw [List.foldlM_cons]
    constructor
    · intro h
      obtain ⟨between, hadd, h⟩ := Option.bind_eq_some_iff.mp h
      obtain ⟨c, hc, rfl⟩ := (addMatch_eq_some component).mp hadd
      obtain ⟨cs, hcs, rfl⟩ := ih.mp h
      exact ⟨c :: cs, .cons hc hcs, rfl⟩
    · rintro ⟨_, _ | ⟨hc, hcs⟩, rfl⟩
      rw [(addMatch_eq_some component).mpr ⟨_, hc, rfl⟩]
      exact ih.mpr ⟨_, hcs, rfl⟩

theorem IsComponent.of_plain {t : List Char × List Char} {part : Component}
    (h : IsComponent .plain t part) : IsComponent d t part := by
  have digit {c : Char} (hc : DigitClass.plain.holds c) : d.holds c = true := by
    have := (isDigit_iff.mp hc).2
    rw [d.ascii c (by omega)]
    exact hc
  obtain ⟨amount, spelling⟩ := h
  refine ⟨?_, spelling⟩
  cases amount with
  | whole nonempty digits => exact .whole nonempty fun c hc => digit (digits c hc)
  | point nonempty digits more =>
    exact .point nonempty (fun c hc => digit (digits c hc)) fun c hc => digit (more c hc)
  | fraction nonempty more => exact .fraction nonempty fun c hc => digit (more c hc)

theorem Spelled.of_plain {u : List Char} {tiles : List (List Char × List Char)}
    {parts : List Component} (h : Spelled .plain u tiles parts) : Spelled d u tiles parts :=
  ⟨h.nonempty, h.each.imp fun _ _ => IsComponent.of_plain, h.cover⟩

/-- The reader reads what the two expressions say, whatever else they take for digits. -/
theorem readUnsigned_eq_readMatches (d : DigitClass) (u : List Char) :
    readUnsigned u = readMatches d u := by
  unfold readUnsigned readMatches
  congr 1
  cases hcomponents : components u with
  | some parts =>
    obtain ⟨tiles, spelled⟩ := components_eq_some.mp hcomponents
    have hfits : (format d).fits u = true := fits_format.mpr ⟨tiles, parts, spelled.of_plain⟩
    have hsum : tiles.foldlM addMatch Binary.zero = some (total parts) :=
      (foldlM_addMatch spelled.each).mpr ⟨parts, spelled.each, rfl⟩
    rw [if_pos hfits, spelled.of_plain.componentMatches, hsum]
    rfl
  | none =>
    split
    · next hfits =>
      obtain ⟨tiles, parts, spelled⟩ := fits_format.mp hfits
      have hsum : tiles.foldlM addMatch Binary.zero = none :=
        Option.eq_none_iff_forall_ne_some.mpr fun sum hsum => by
          obtain ⟨cs, each, -⟩ := (foldlM_addMatch spelled.each).mp hsum
          rw [components_eq_some.mpr ⟨tiles, spelled.nonempty, each, spelled.cover⟩] at hcomponents
          cases hcomponents
      rw [spelled.componentMatches, hsum]
      rfl
    · rfl

/-- A lifetime is read as its grammar says, and the two expressions say the same: where the one fits
a text, the matches of the other are its components, and it has no others. -/
theorem parse_spelled (d : DigitClass) (text : String) (u : List Char) :
    (∀ r, parse text = r ↔ Reads (Text.trim text) r)
      ∧ readUnsigned u = readMatches d u
      ∧ ((format d).fits u = true ↔ ∃ parts, Spelled d u (componentMatches d u) parts)
      ∧ ∀ tiles parts, Spelled d u tiles parts → tiles = componentMatches d u := by
  refine ⟨fun r => parse_eq_iff, readUnsigned_eq_readMatches d u, ?_,
    fun tiles parts spelled => spelled.componentMatches.symm⟩
  rw [fits_format]
  constructor
  · rintro ⟨tiles, parts, spelled⟩
    rw [spelled.componentMatches]
    exact ⟨parts, spelled⟩
  · rintro ⟨parts, spelled⟩
    exact ⟨_, parts, spelled⟩

/-- The ASCII digits and the full-width ones. -/
def DigitClass.withFullWidth : DigitClass where
  holds c := isDigit c || ('\uff10' ≤ c && c ≤ '\uff19')
  ascii c h := by
    have hlow : ¬ '\uff10' ≤ c := by
      rw [Char.le_def, UInt32.le_iff_toNat_le, Nat.not_le]
      exact Nat.lt_trans h (by decide)
    simp [hlow]
  micro := by decide
  mu := by decide

/-- A number that the format allows and that is no number of the language of literals. -/
example : (format .withFullWidth).fits ['\uff17', 'h'] = true
    ∧ readUnsigned ['\uff17', 'h'] = none := by decide

end CertIssuer.Lifetime

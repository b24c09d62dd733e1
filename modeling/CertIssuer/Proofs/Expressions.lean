/-!
Regular expressions, and how they are searched for. At the front of a text an expression has ways to
match, the preferred ones first: the first alternative before the second, another repetition before
none. A search takes the preferred way at the first place that has one, and goes on behind it.

Main statement: whatever is preferred, the ways are exactly the beginnings of the text that the
expression describes.
-/

namespace CertIssuer.Text

/-- A regular expression. -/
inductive Expression where
  | empty
  | one (p : Char → Bool)
  | seq (a b : Expression)
  | alt (a b : Expression)
  | many (a : Expression)

/-- A way to match: what is matched at the front of a text, and what follows it. -/
abbrev Way := List Char × List Char

/-- A way with more matched before it. -/
def Way.after (x : List Char) (w : Way) : Way := (x ++ w.1, w.2)

namespace Expression

/-! ### What an expression describes -/

/-- A text is described by an expression. -/
inductive Describes : Expression → List Char → Prop
  | empty : Describes .empty []
  | one {p : Char → Bool} {c : Char} (h : p c = true) : Describes (.one p) [c]
  | seq {a b : Expression} {x y : List Char} (ha : Describes a x) (hb : Describes b y) :
      Describes (.seq a b) (x ++ y)
  | left {a b : Expression} {x : List Char} (h : Describes a x) : Describes (.alt a b) x
  | right {a b : Expression} {x : List Char} (h : Describes b x) : Describes (.alt a b) x
  | stop {a : Expression} : Describes (.many a) []
  | more {a : Expression} {x y : List Char} (hx : Describes a x) (hy : Describes (.many a) y) :
      Describes (.many a) (x ++ y)

/-! ### Matching -/

/-- The ways to match a step again and again, each time something of the text, at most `fuel`
times. -/
def repeated (step : List Char → List Way) : Nat → List Char → List Way
  | 0, s => [([], s)]
  | fuel + 1, s =>
    ((step s).filter fun w => !w.1.isEmpty).flatMap
        (fun w => (repeated step fuel w.2).map (Way.after w.1))
      ++ [([], s)]

/-- The ways to match an expression at the front of a text, the preferred ones first. -/
def ways : Expression → List Char → List Way
  | .empty => fun s => [([], s)]
  | .one p => fun s =>
    match s with
    | c :: rest => if p c then [([c], rest)] else []
    | [] => []
  | .seq a b => fun s => (a.ways s).flatMap fun w => (b.ways w.2).map (Way.after w.1)
  | .alt a b => fun s => a.ways s ++ b.ways s
  | .many a => fun s => repeated a.ways s.length s

/-- Whether an expression matches all of a text. -/
def fits (e : Expression) (s : List Char) : Bool := (e.ways s).any fun w => w.2.isEmpty

/-- The preferred way to match one expression and then another: what each of them matches, and what
follows. -/
def firstPair (a b : Expression) (s : List Char) : Option ((List Char × List Char) × List Char) :=
  ((a.ways s).flatMap fun w => (b.ways w.2).map fun v => ((w.1, v.1), v.2)).head?

/-- The matches of one expression followed by another, which together match no empty text, from left
to right. -/
def searchPairs (a b : Expression) : Nat → List Char → List (List Char × List Char)
  | fuel + 1, c :: s =>
    match a.firstPair b (c :: s) with
    | some (found, rest) => found :: searchPairs a b fuel rest
    | none => searchPairs a b fuel s
  | _, _ => []

/-! ### The ways are what is described -/

variable {a b e : Expression} {s x rest : List Char}

theorem mem_map_after {ws : List Way} {y : List Char} :
    (x, rest) ∈ ws.map (Way.after y) ↔ ∃ z, (z, rest) ∈ ws ∧ x = y ++ z := by
  simp only [List.mem_map, Way.after, Prod.exists, Prod.mk.injEq]
  constructor
  · rintro ⟨z, r, hw, rfl, rfl⟩
    exact ⟨z, hw, rfl⟩
  · rintro ⟨z, hw, rfl⟩
    exact ⟨z, rest, hw, rfl, rfl⟩

theorem described_of_mem_repeated {fuel : Nat}
    (sound : ∀ {s x rest}, (x, rest) ∈ a.ways s → s = x ++ rest ∧ a.Describes x)
    (h : (x, rest) ∈ repeated a.ways fuel s) : s = x ++ rest ∧ (many a).Describes x := by
  induction fuel generalizing s x with
  | zero =>
    obtain ⟨rfl, rfl⟩ := Prod.mk.inj (List.mem_singleton.mp h)
    exact ⟨rfl, .stop⟩
  | succ fuel ih =>
    rcases List.mem_append.mp h with h | h
    · obtain ⟨⟨y, between⟩, hw, hrest⟩ := List.mem_flatMap.mp h
      obtain ⟨z, hz, rfl⟩ := mem_map_after.mp hrest
      obtain ⟨rfl, hy⟩ := sound (List.mem_filter.mp hw).1
      obtain ⟨rfl, hdescribes⟩ := ih hz
      exact ⟨(List.append_assoc ..).symm, .more hy hdescribes⟩
    · obtain ⟨rfl, rfl⟩ := Prod.mk.inj (List.mem_singleton.mp h)
      exact ⟨rfl, .stop⟩

theorem mem_repeated_of_described {fuel : Nat}
    (complete : ∀ {x} rest, a.Describes x → (x, rest) ∈ a.ways (x ++ rest))
    (h : (many a).Describes x) (enough : (x ++ rest).length ≤ fuel) :
    (x, rest) ∈ repeated a.ways fuel (x ++ rest) := by
  generalize he : many a = e at h
  induction h generalizing fuel with
  | empty | one _ | seq _ _ | left _ | right _ => cases he
  | stop => cases fuel <;> simp [repeated]
  | @more _ x y hx _ _ ih =>
    cases he
    cases x with
    | nil => exact ih enough rfl
    | cons c x =>
      -- a repetition that matches something leaves a shorter text
      cases fuel with
      | zero => simp at enough
      | succ fuel =>
        refine List.mem_append_left _ (List.mem_flatMap.mpr ⟨(c :: x, y ++ rest), ?_, ?_⟩)
        · rw [List.mem_filter, List.append_assoc]
          exact ⟨complete _ hx, rfl⟩
        · refine mem_map_after.mpr ⟨y, ih ?_ rfl, rfl⟩
          simp only [List.length_append, List.length_cons] at enough ⊢
          omega

/-- The ways are the beginnings that the expression describes. -/
theorem mem_ways : (x, rest) ∈ e.ways s ↔ s = x ++ rest ∧ e.Describes x := by
  constructor
  · intro h
    induction e generalizing s x rest with
    | empty =>
      obtain ⟨rfl, rfl⟩ := Prod.mk.inj (List.mem_singleton.mp h)
      exact ⟨rfl, .empty⟩
    | one p =>
      cases s with
      | nil => cases h
      | cons c s =>
        simp only [ways] at h
        split at h
        · next hp =>
          obtain ⟨rfl, rfl⟩ := Prod.mk.inj (List.mem_singleton.mp h)
          exact ⟨rfl, .one hp⟩
        · cases h
    | seq a b iha ihb =>
      obtain ⟨⟨y, between⟩, hw, hrest⟩ := List.mem_flatMap.mp h
      obtain ⟨z, hv, rfl⟩ := mem_map_after.mp hrest
      obtain ⟨rfl, hy⟩ := iha hw
      obtain ⟨rfl, hz⟩ := ihb hv
      exact ⟨(List.append_assoc ..).symm, .seq hy hz⟩
    | alt a b iha ihb =>
      rcases List.mem_append.mp h with h | h
      · exact ⟨(iha h).1, .left (iha h).2⟩
      · exact ⟨(ihb h).1, .right (ihb h).2⟩
    | many a ih => exact described_of_mem_repeated ih h
  · rintro ⟨rfl, h⟩
    induction e generalizing x rest with
    | empty =>
      cases h
      exact List.mem_singleton_self _
    | one p =>
      cases h with
      | one hp => simp [ways, hp]
    | seq a b iha ihb =>
      cases h with
      | seq hx hy =>
        rw [List.append_assoc]
        exact List.mem_flatMap.mpr ⟨_, iha hx, mem_map_after.mpr ⟨_, ihb hy, rfl⟩⟩
    | alt a b iha ihb =>
      cases h with
      | left h => exact List.mem_append_left _ (iha h)
      | right h => exact List.mem_append_right _ (ihb h)
    | many a ih => exact mem_repeated_of_described (fun _ => ih) h (Nat.le_refl _)

theorem fits_iff : e.fits s = true ↔ e.Describes s := by
  simp only [fits, List.any_eq_true, List.isEmpty_iff, Prod.exists]
  constructor
  · rintro ⟨x, rest, hmem, rfl⟩
    obtain ⟨rfl, h⟩ := mem_ways.mp hmem
    rwa [List.append_nil]
  · intro h
    exact ⟨s, [], mem_ways.mpr ⟨(List.append_nil s).symm, h⟩, rfl⟩

/-! ### More expressions -/

/-- At least one. -/
def plus (e : Expression) : Expression := .seq e (.many e)

/-- One, if there is one. -/
def optional (e : Expression) : Expression := .alt e .empty

/-- A text as it is. -/
def literally (y : List Char) : Expression := y.foldr (fun c e => .seq (.one (· == c)) e) .empty

/-- The first of some expressions that there is. -/
def firstOf (es : List Expression) : Expression := es.foldr .alt (.one fun _ => false)

variable {p : Char → Bool} {es : List Expression}

theorem describes_empty : Describes .empty x ↔ x = [] := by
  constructor
  · rintro ⟨⟩
    rfl
  · rintro rfl
    exact .empty

theorem describes_one : (one p).Describes x ↔ ∃ c, p c = true ∧ x = [c] := by
  constructor
  · intro h
    cases h with
    | one h => exact ⟨_, h, rfl⟩
  · rintro ⟨c, h, rfl⟩
    exact .one h

theorem describes_seq :
    (seq a b).Describes x ↔ ∃ y z, a.Describes y ∧ b.Describes z ∧ x = y ++ z := by
  constructor
  · intro h
    cases h with
    | seq hy hz => exact ⟨_, _, hy, hz, rfl⟩
  · rintro ⟨y, z, hy, hz, rfl⟩
    exact .seq hy hz

theorem describes_alt : (alt a b).Describes x ↔ a.Describes x ∨ b.Describes x := by
  constructor
  · intro h
    cases h with
    | left h => exact .inl h
    | right h => exact .inr h
  · rintro (h | h)
    · exact .left h
    · exact .right h

/-- Repetitions are given by what each of them is. -/
theorem describes_many :
    (many e).Describes x ↔ ∃ xs : List (List Char), (∀ y ∈ xs, e.Describes y) ∧ x = xs.flatten := by
  constructor
  · intro h
    generalize he : many e = m at h
    induction h with
    | empty | one _ | seq _ _ | left _ | right _ => cases he
    | stop => exact ⟨[], nofun, rfl⟩
    | more hx _ _ ih =>
      cases he
      obtain ⟨xs, hxs, rfl⟩ := ih rfl
      exact ⟨_ :: xs, List.forall_mem_cons.mpr ⟨hx, hxs⟩, rfl⟩
  · rintro ⟨xs, hxs, rfl⟩
    induction xs with
    | nil => exact .stop
    | cons y xs ih =>
      obtain ⟨hy, hxs⟩ := List.forall_mem_cons.mp hxs
      exact .more hy (ih hxs)

theorem describes_plus :
    (plus e).Describes x
      ↔ ∃ xs : List (List Char), xs ≠ [] ∧ (∀ y ∈ xs, e.Describes y) ∧ x = xs.flatten := by
  rw [plus, describes_seq]
  constructor
  · rintro ⟨y, z, hy, hz, rfl⟩
    obtain ⟨xs, hxs, rfl⟩ := describes_many.mp hz
    exact ⟨y :: xs, List.cons_ne_nil _ _, List.forall_mem_cons.mpr ⟨hy, hxs⟩, rfl⟩
  · rintro ⟨_ | ⟨y, xs⟩, hne, hxs, rfl⟩
    · exact absurd rfl hne
    · obtain ⟨hy, hxs⟩ := List.forall_mem_cons.mp hxs
      exact ⟨y, xs.flatten, hy, describes_many.mpr ⟨xs, hxs, rfl⟩, rfl⟩

theorem describes_many_one : (many (one p)).Describes x ↔ ∀ c ∈ x, p c = true := by
  rw [describes_many]
  constructor
  · rintro ⟨xs, hxs, rfl⟩ c hc
    obtain ⟨y, hy, hcy⟩ := List.mem_flatten.mp hc
    obtain ⟨e, he, rfl⟩ := describes_one.mp (hxs y hy)
    rwa [List.mem_singleton.mp hcy]
  · intro h
    refine ⟨x.map fun c => [c], fun y hy => ?_, ?_⟩
    · obtain ⟨c, hc, rfl⟩ := List.mem_map.mp hy
      exact .one (h c hc)
    · rw [← List.flatMap_def, List.flatMap_singleton']

theorem describes_plus_one :
    (plus (one p)).Describes x ↔ x ≠ [] ∧ ∀ c ∈ x, p c = true := by
  rw [plus, describes_seq]
  constructor
  · rintro ⟨y, z, hy, hz, rfl⟩
    obtain ⟨c, hc, rfl⟩ := describes_one.mp hy
    exact ⟨List.cons_ne_nil _ _, List.forall_mem_cons.mpr ⟨hc, describes_many_one.mp hz⟩⟩
  · rintro ⟨hne, h⟩
    obtain ⟨c, z, rfl⟩ := List.ne_nil_iff_exists_cons.mp hne
    obtain ⟨hc, hz⟩ := List.forall_mem_cons.mp h
    exact ⟨[c], z, .one hc, describes_many_one.mpr hz, rfl⟩

theorem describes_optional : (optional e).Describes x ↔ e.Describes x ∨ x = [] := by
  rw [optional, describes_alt, describes_empty]

theorem describes_literally {y : List Char} : (literally y).Describes x ↔ x = y := by
  induction y generalizing x with
  | nil => exact describes_empty
  | cons c y ih =>
    rw [literally, List.foldr_cons, describes_seq]
    constructor
    · rintro ⟨_, z, hc, hz, rfl⟩
      obtain ⟨c', hc', rfl⟩ := describes_one.mp hc
      rw [ih.mp hz, beq_iff_eq.mp hc']
      rfl
    · rintro rfl
      exact ⟨[c], y, .one (beq_self_eq_true c), ih.mpr rfl, rfl⟩

theorem describes_firstOf : (firstOf es).Describes x ↔ ∃ e ∈ es, e.Describes x := by
  induction es with
  | nil => simp [firstOf, describes_one]
  | cons e es ih =>
    rw [firstOf, List.foldr_cons, describes_alt]
    simp [← ih, firstOf]

/-! ### Searching -/

/-- If all ways of the first expression that the second can follow match the same, the preferred way
of the second decides. -/
theorem firstPair_of_forced {y after : List Char} (hx : a.Describes x)
    (forced : ∀ {x' r'}, (x', r') ∈ a.ways (x ++ s) → b.ways r' ≠ [] → x' = x)
    (first : (b.ways s).head? = some (y, after)) :
    a.firstPair b (x ++ s) = some ((x, y), after) := by
  have hmem : (x, s) ∈ a.ways (x ++ s) := mem_ways.mpr ⟨rfl, hx⟩
  have heads : ∀ w ∈ a.ways (x ++ s),
      ((b.ways w.2).map fun v => ((w.1, v.1), v.2)).head? = none
        ∨ ((b.ways w.2).map fun v => ((w.1, v.1), v.2)).head? = some ((x, y), after) := by
    rintro ⟨x', r'⟩ hw
    by_cases hnone : b.ways r' = []
    · exact .inl (by simp [hnone])
    · obtain rfl := forced hw hnone
      obtain rfl := List.append_cancel_left (mem_ways.mp hw).1
      exact .inr (by simp [first])
  have some' : ∃ w ∈ a.ways (x ++ s),
      ((b.ways w.2).map fun v => ((w.1, v.1), v.2)).head? = some ((x, y), after) :=
    ⟨_, hmem, by simp [first]⟩
  unfold firstPair
  generalize a.ways (x ++ s) = ws at *
  clear forced hmem
  induction ws with
  | nil =>
    obtain ⟨_, hw, _⟩ := some'
    cases hw
  | cons w ws ih =>
    rw [List.flatMap_cons, List.head?_append]
    rcases heads w List.mem_cons_self with hnone | hsome
    · rw [hnone, Option.none_or]
      refine ih (fun v hv => heads v (List.mem_cons_of_mem _ hv)) ?_
      obtain ⟨v, hv, hfirst⟩ := some'
      rcases List.mem_cons.mp hv with rfl | hv
      · rw [hnone] at hfirst
        cases hfirst
      · exact ⟨v, hv, hfirst⟩
    · rw [hsome, Option.some_or]

end Expression
end CertIssuer.Text

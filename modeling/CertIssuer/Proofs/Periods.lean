import CertIssuer.Proofs.SentRequest

/-!
The period asked for. Of the periods on offer it is one that is nearest to the whole days of the
lifetime, and the shortest of those. So a longer lifetime never leads to a shorter period: between
two periods there is one midpoint, and it is passed in one direction only.

In lists of any other numbers the first of the nearest is found too, with one exception. The search
starts from the greatest distance as one that nothing reaches, but the two ends of the numbers are
that far apart.
-/

namespace CertIssuer

variable {σ : Type}

/-- Spans in their order: by seconds, and then by nanoseconds. -/
instance : LE Span :=
  ⟨fun d e => d.seconds < e.seconds ∨ d.seconds = e.seconds ∧ d.nanoseconds ≤ e.nanoseconds⟩

instance (d e : Span) : Decidable (d ≤ e) :=
  inferInstanceAs (Decidable (_ ∨ _))

theorem Span.seconds_le {d e : Span} (h : d ≤ e) : d.seconds ≤ e.seconds := by
  rcases h with hlt | ⟨heq, _⟩
  · exact UInt64.le_of_lt hlt
  · exact heq ▸ UInt64.le_refl _

namespace Period

/-! ### Whole days -/

/-- The days of a span are counted in full. -/
theorem toInt_days (d : Span) : (days d).toInt = (d.seconds.toNat / 86400 : Nat) := by
  have hlt : d.seconds.toNat / 86400 < 2 ^ 63 := by
    have := d.seconds.toNat_lt
    omega
  have fits : ((d.seconds.toNat / 86400 : Nat) : Int) ≤ Int64.maxValue.toInt := by
    rw [show Int64.maxValue.toInt = 2 ^ 63 - 1 from rfl]
    omega
  rw [days, if_pos fits, Int64.toInt_ofNat_of_lt hlt]

theorem days_mono {d e : Span} (h : d ≤ e) : days d ≤ days e := by
  rw [Int64.le_iff_toInt_le, toInt_days, toInt_days]
  exact Int.ofNat_le.mpr
    (Nat.div_le_div_right (UInt64.le_iff_toNat_le.mp (Span.seconds_le h)))

/-! ### The nearest period -/

variable {of : Int64} {periods : List Int64}

/-- One pass over the periods keeps the best so far, or ends with the first of the nearest. -/
theorem foldl_nearer (of : Int64) (periods : List Int64) (best : Int64 × Nat) :
    (periods.foldl (nearer of) best = best ∧ ∀ q ∈ periods, best.2 ≤ distance q of)
      ∨ ∃ before p after, periods = before ++ p :: after
        ∧ periods.foldl (nearer of) best = (p, distance p of)
        ∧ distance p of < best.2
        ∧ (∀ q ∈ before, distance p of < distance q of)
        ∧ ∀ q ∈ after, distance p of ≤ distance q of := by
  induction periods generalizing best with
  | nil => exact .inl ⟨rfl, nofun⟩
  | cons x rest ih =>
    rw [List.foldl_cons, nearer]
    split
    · next better =>
      rcases ih (x, distance x of) with ⟨hfold, hrest⟩ | ⟨before, p, after, rfl, hfold, hp, hb, ha⟩
      · exact .inr ⟨[], x, rest, rfl, hfold, better, nofun, hrest⟩
      · refine .inr ⟨x :: before, p, after, rfl, hfold, Nat.lt_trans hp better, ?_, ha⟩
        exact List.forall_mem_cons.mpr ⟨hp, hb⟩
    · next worse =>
      have hx : best.2 ≤ distance x of := Nat.le_of_not_lt worse
      rcases ih best with ⟨hfold, hrest⟩ | ⟨before, p, after, rfl, hfold, hp, hb, ha⟩
      · exact .inl ⟨hfold, List.forall_mem_cons.mpr ⟨hx, hrest⟩⟩
      · refine .inr ⟨x :: before, p, after, rfl, hfold, hp, ?_, ha⟩
        exact List.forall_mem_cons.mpr ⟨Nat.lt_of_lt_of_le hp hx, hb⟩

/-- Where some period is nearer than the greatest distance, the choice is the first of the
nearest. -/
theorem closest_split (near : ∃ p ∈ periods, distance p of < UInt64.size - 1) :
    ∃ before after, periods = before ++ closest of periods :: after
      ∧ (∀ q ∈ before, distance (closest of periods) of < distance q of)
      ∧ ∀ q ∈ after, distance (closest of periods) of ≤ distance q of := by
  rw [closest]
  rcases foldl_nearer of periods (of, UInt64.size - 1)
    with ⟨_, hall⟩ | ⟨before, p, after, hsplit, hfold, _, hb, ha⟩
  · obtain ⟨p, hp, hlt⟩ := near
    exact absurd (hall p hp) (Nat.not_le.mpr hlt)
  · rw [hfold]
    exact ⟨before, after, hsplit, hb, ha⟩

theorem closest_mem (near : ∃ p ∈ periods, distance p of < UInt64.size - 1) :
    closest of periods ∈ periods := by
  obtain ⟨before, after, hsplit, -, -⟩ := closest_split near
  generalize closest of periods = p at *
  rw [hsplit]
  exact List.mem_append_right before List.mem_cons_self

/-- No period of a list is nearer. -/
def Nearest (of : Int64) (periods : List Int64) (p : Int64) : Prop :=
  ∀ q ∈ periods, distance p of ≤ distance q of

instance (of : Int64) (periods : List Int64) (p : Int64) : Decidable (Nearest of periods p) :=
  inferInstanceAs (Decidable (∀ q ∈ periods, _))

theorem nearest_closest (near : ∃ p ∈ periods, distance p of < UInt64.size - 1) :
    Nearest of periods (closest of periods) := by
  obtain ⟨before, after, hsplit, hb, ha⟩ := closest_split near
  intro q hq
  rw [hsplit] at hq
  rcases List.mem_append.mp hq with hq | hq
  · exact Nat.le_of_lt (hb q hq)
  · rcases List.mem_cons.mp hq with rfl | hq
    · exact Nat.le_refl _
    · exact ha q hq

/-- A period that suits a number of days: it is on offer, none on offer is nearer, and none that is
as near is shorter. -/
structure Suits (of : Int64) (periods : List Int64) (p : Int64) : Prop where
  offered : p ∈ periods
  nearest : ∀ q ∈ periods, distance p of ≤ distance q of
  shortest : ∀ q ∈ periods, distance q of = distance p of → p ≤ q

/-- Of ascending periods the choice is the one that suits. -/
theorem suits_closest (ascending : periods.Pairwise (· < ·))
    (near : ∃ p ∈ periods, distance p of < UInt64.size - 1) :
    Suits of periods (closest of periods) := by
  refine ⟨closest_mem near, nearest_closest near, fun q hq heq => ?_⟩
  obtain ⟨before, after, hsplit, hb, -⟩ := closest_split near
  generalize closest of periods = p at *
  subst hsplit
  have hafter := (List.pairwise_cons.mp (List.pairwise_append.mp ascending).2.1).1
  rcases List.mem_append.mp hq with hq | hq
  · exact absurd heq.symm (Nat.ne_of_lt (hb q hq))
  · rcases List.mem_cons.mp hq with rfl | hq
    · exact Int64.le_refl q
    · exact Int64.le_of_lt (hafter q hq)

/-- What suits more days is not shorter. -/
theorem Suits.mono {x y p q : Int64} (hp : Suits x periods p) (hq : Suits y periods q)
    (h : x ≤ y) : p ≤ q := by
  rw [Int64.le_iff_toInt_le] at h ⊢
  refine Int.not_lt.mp fun hlt => ?_
  have hnearer : distance p x < distance q x := by
    refine Nat.lt_of_le_of_ne (hp.nearest q hq.offered) fun heq => ?_
    have hpq := Int64.le_iff_toInt_le.mp (hp.shortest q hq.offered heq.symm)
    omega
  have hnear : distance q y ≤ distance p y := hq.nearest p hp.offered
  -- `x` lies beyond the midpoint of the two, and `y` does not
  unfold distance at hnearer hnear
  omega

theorem ascending_allowed : allowed.Pairwise (· < ·) := by decide

theorem suits_ofLifetime (d : Span) : Suits (days d) allowed (ofLifetime d) := by
  refine suits_closest ascending_allowed ⟨7, by decide, ?_⟩
  have hle := (days d).le_toInt
  have hlt := (days d).toInt_lt
  rw [distance, show (7 : Int64).toInt = 7 from rfl, show UInt64.size = 2 ^ 64 from rfl]
  omega

/-! ### Numbers at the two ends -/

/-- The two numbers are the least and the greatest there is. -/
def Opposite (a b : Int64) : Prop :=
  a = Int64.minValue ∧ b = Int64.maxValue ∨ a = Int64.maxValue ∧ b = Int64.minValue

instance (a b : Int64) : Decidable (Opposite a b) := inferInstanceAs (Decidable (_ ∨ _))

theorem not_opposite_self (a : Int64) : ¬ Opposite a a := by
  rintro (⟨rfl, h⟩ | ⟨rfl, h⟩) <;> revert h <;> decide

/-- Only the two ends are as far apart as the greatest distance. -/
theorem distance_lt_iff {a b : Int64} : distance a b < UInt64.size - 1 ↔ ¬ Opposite a b := by
  have ha := a.toInt_lt
  have ha' := a.le_toInt
  have hb := b.toInt_lt
  have hb' := b.le_toInt
  rw [Opposite, ← Int64.toInt_inj, ← Int64.toInt_inj, ← Int64.toInt_inj, ← Int64.toInt_inj,
    distance, show Int64.minValue.toInt = -2 ^ 63 from rfl,
    show Int64.maxValue.toInt = 2 ^ 63 - 1 from rfl, show UInt64.size = 2 ^ 64 from rfl]
  omega

/-- The choice is the first of the nearest periods unless all of them are at one end and the number
of days is at the other. Then none is nearer than the distance that the search starts from, and the
choice is the number itself. -/
theorem closest_eq_first_nearest (of : Int64) (periods : List Int64) :
    (periods.find? (Nearest of periods ·) = some (closest of periods)
        ↔ ∃ p ∈ periods, ¬ Opposite p of)
      ∧ ((∀ p ∈ periods, Opposite p of) → closest of periods = of) := by
  have itself : (∀ p ∈ periods, Opposite p of) → closest of periods = of := by
    intro opposite
    rw [closest]
    rcases foldl_nearer of periods (of, UInt64.size - 1)
      with ⟨hfold, _⟩ | ⟨before, p, after, rfl, _, hnear, _⟩
    · rw [hfold]
    · exact absurd (opposite p (by simp)) (distance_lt_iff.mp hnear)
  refine ⟨⟨fun hfind => ?_, fun ⟨p, mem, hp⟩ => ?_⟩, itself⟩
  · refine Decidable.byContradiction fun hnone => ?_
    have hall : ∀ p ∈ periods, Opposite p of := fun p mem =>
      Decidable.byContradiction fun hp => hnone ⟨p, mem, hp⟩
    have hmem := List.mem_of_find?_eq_some hfind
    rw [itself hall] at hmem
    exact not_opposite_self of (hall of hmem)
  · have near : ∃ p ∈ periods, distance p of < UInt64.size - 1 :=
      ⟨p, mem, distance_lt_iff.mpr hp⟩
    obtain ⟨before, after, hsplit, hb, -⟩ := closest_split near
    refine List.find?_eq_some_iff_append.mpr
      ⟨decide_eq_true (nearest_closest near), before, after, hsplit, fun q hq => ?_⟩
    -- the choice is on the list, so what is farther than the choice is not nearest
    have hfarther : ¬ Nearest of periods q := fun h =>
      Nat.not_le.mpr (hb q hq) (h _ (closest_mem near))
    rw [decide_eq_false hfarther]
    rfl

/-- The greatest number is not found for the least one, although there is no other. -/
theorem closest_not_offered :
    closest Int64.minValue [Int64.maxValue] ∉ [Int64.maxValue] := by
  decide

/-! ### What is sent -/

/-- The period that a call asks for on behalf of a lifetime is an allowed one, nearest to its whole
days and the shortest of those. It never falls when the lifetime grows, and the whole days are
counted without loss. -/
theorem sent_period (d : Span) :
    Suits (days d) allowed (ofLifetime d)
      ∧ (∀ e : Span, d ≤ e → ofLifetime d ≤ ofLifetime e)
      ∧ ((days d).toInt = (d.seconds.toNat / 86400 : Nat) ∧ days d < Int64.maxValue)
      ∧ ∀ {σ : Type} {signer : σ} {type : RequestType} {spec : RequestSpec} {text : String}
          {l : List (Access σ)} {b : Except ProvisionError Bytes} {call : SignCall σ},
        spec.duration = some text → Lifetime.parse text = .ok d →
          (Provision.sign signer type spec).Path l b → call ∈ calls l →
            call.request.validity = ofLifetime d := by
  refine ⟨suits_ofLifetime d, fun e h => ?_, ⟨toInt_days d, ?_⟩, ?_⟩
  · exact (suits_ofLifetime d).mono (suits_ofLifetime e) (days_mono h)
  · have hlt := d.seconds.toNat_lt
    rw [Int64.lt_iff_toInt_lt, toInt_days, show Int64.maxValue.toInt = 2 ^ 63 - 1 from rfl]
    omega
  · intro σ signer type spec text l b call hduration hparse path mem
    have payload := RequestReconcile.signRequest_eq_ok.mp (Provision.signRequest_of_call path mem)
    rcases payload.validity with ⟨hnone, _⟩ | ⟨text', d', hduration', hparse', hvalidity⟩
    · cases hduration.symm.trans hnone
    · obtain rfl : text = text' := Option.some.inj (hduration.symm.trans hduration')
      obtain rfl : d = d' := Except.ok.inj (hparse.symm.trans hparse')
      exact hvalidity

/-- The sample specification with this lifetime. -/
def specFor (lifetime : String) : RequestSpec :=
  { (Sample.request [] [] none).spec with duration := some lifetime }

/-- The accesses when it is signed in a sample world. -/
def accessesFor (lifetime : String) : List (Access ScriptSigner) :=
  (Provision.sign .scripted .rsa (specFor lifetime)).accesses (World.handler Script.authority)
    (World.sample [])

/-- Halfway between two periods the shorter one is asked for, and a nanosecond more leads to no
shorter one. -/
theorem sent_period_halfway :
    (∃ call ∈ calls (accessesFor "78840h"), call.request.validity = 1095)
      ∧ 1095 ≤ ofLifetime ⟨283824000, 1⟩ := by
  have parsed : Lifetime.parse "78840h" = .ok ⟨283824000, 0⟩ := by
    have hread : (Lifetime.parse "78840h").toOption = some ⟨283824000, 0⟩ := by decide +kernel
    cases hparse : Lifetime.parse "78840h" with
    | error fault =>
      rw [hparse] at hread
      cases hread
    | ok d =>
      rw [hparse] at hread
      exact congrArg Except.ok (Option.some.inj hread)
  have path := Plan.path_run (World.handler Script.authority)
    (Provision.sign .scripted .rsa (specFor "78840h")) (World.sample [])
  have made : (calls (accessesFor "78840h")).length = 1 := by decide +kernel
  obtain ⟨call, hcall⟩ := List.length_eq_one_iff.mp made
  have mem : call ∈ calls (accessesFor "78840h") := by
    rw [hcall]
    exact List.mem_singleton_self call
  have sent := sent_period ⟨283824000, 0⟩
  exact ⟨⟨call, mem, sent.2.2.2 rfl parsed path mem⟩, sent.2.1 ⟨283824000, 1⟩ (by decide)⟩

end Period
end CertIssuer

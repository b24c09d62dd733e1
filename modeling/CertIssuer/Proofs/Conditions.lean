import CertIssuer.Resource.Condition

/-!
What the conditions say after one of them was set: the condition that was set is there, with its
status and its reason, and all others were there before.
-/

namespace CertIssuer.Conditions

/-- Two conditions that say the same, be it since different times. -/
structure Agree (c d : Condition) : Prop where
  type : c.type = d.type
  status : c.status = d.status
  reason : c.reason = d.reason
  message : c.message = d.message

theorem agree_replacing (old new : Condition) : Agree (replacing old new) new := by
  unfold replacing
  split <;> exact ⟨rfl, rfl, rfl, rfl⟩

/-! ### The place of a condition that was put -/

/-- `new` has `c` in the place of the first condition of its type in `old`, or at the end if there is
none, and is otherwise the same. -/
def PutsFirst (c : Condition) (old new : List Condition) : Prop :=
  ∃ before after, (∀ d ∈ before, d.type ≠ c.type) ∧ new = before ++ c :: after
    ∧ ((∃ d, d.type = c.type ∧ old = before ++ d :: after) ∨ (old = before ∧ after = []))

/-- Putting a condition replaces the first one of its type. -/
theorem putsFirst_put (new : Condition) (conditions : List Condition) :
    ∃ c, Agree c new ∧ PutsFirst c conditions (put new conditions) := by
  induction conditions with
  | nil => exact ⟨new, ⟨rfl, rfl, rfl, rfl⟩, [], [], by simp, rfl, .inr ⟨rfl, rfl⟩⟩
  | cons d rest ih =>
    unfold put
    split
    · next hd =>
      have agree := agree_replacing d new
      refine ⟨replacing d new, agree, [], rest, by simp, rfl, .inl ⟨d, ?_, rfl⟩⟩
      rw [hd, agree.type]
    · next hd =>
      obtain ⟨c, agree, before, after, hbefore, hnew, hold⟩ := ih
      refine ⟨c, agree, d :: before, after, ?_, by rw [hnew, List.cons_append], ?_⟩
      · intro x hx
        rcases List.mem_cons.mp hx with rfl | hx
        · rw [agree.type]
          exact hd
        · exact hbefore x hx
      · rcases hold with ⟨x, hx, hrest⟩ | ⟨hrest, hafter⟩
        · exact .inl ⟨x, hx, by rw [hrest, List.cons_append]⟩
        · exact .inr ⟨by rw [hrest], hafter⟩

/-- Putting a condition adds no other one. -/
theorem mem_put {new c : Condition} {conditions : List Condition} (h : c ∈ put new conditions) :
    c ∈ conditions ∨ Agree c new := by
  obtain ⟨d, agree, before, after, _, hnew, hold⟩ := putsFirst_put new conditions
  rw [hnew, List.mem_append, List.mem_cons] at h
  rcases h with hbefore | rfl | hafter
  · left
    rcases hold with ⟨x, _, rfl⟩ | ⟨rfl, _⟩
    · exact List.mem_append_left _ hbefore
    · exact hbefore
  · exact .inr agree
  · left
    rcases hold with ⟨x, _, rfl⟩ | ⟨_, rfl⟩
    · exact List.mem_append_right _ (List.mem_cons_of_mem x hafter)
    · cases hafter

/-- A condition that was put is there. -/
theorem exists_mem_put (new : Condition) (conditions : List Condition) :
    ∃ c ∈ put new conditions, Agree c new := by
  obtain ⟨c, agree, before, after, _, hnew, _⟩ := putsFirst_put new conditions
  refine ⟨c, ?_, agree⟩
  rw [hnew]
  exact List.mem_append_right _ List.mem_cons_self

/-! ### What the conditions say -/

variable {conditions : List Condition} {type : String} {status : Truth} {reason message : String}
  {now : Instant}

theorem has_iff : has conditions type status = true
    ↔ ∃ c ∈ conditions, c.type = type ∧ c.status = status := by
  simp [has]

theorem hasWithReason_iff : hasWithReason conditions type status reason = true
    ↔ ∃ c ∈ conditions, c.type = type ∧ c.status = status ∧ c.reason = some reason := by
  simp [hasWithReason, and_assoc]

theorem has_eq_false_iff : has conditions type status = false
    ↔ ∀ c ∈ conditions, ¬ (c.type = type ∧ c.status = status) := by
  simp [has]

theorem hasWithReason_eq_false_iff : hasWithReason conditions type status reason = false
    ↔ ∀ c ∈ conditions, ¬ (c.type = type ∧ c.status = status ∧ c.reason = some reason) := by
  simp [hasWithReason]

/-- A condition with a reason is a condition. -/
theorem has_of_hasWithReason (h : hasWithReason conditions type status reason = true) :
    has conditions type status = true := by
  obtain ⟨c, hc, ht, hs, _⟩ := hasWithReason_iff.mp h
  exact has_iff.mpr ⟨c, hc, ht, hs⟩

/-- A condition that was set is there for the reason it was set. -/
theorem hasWithReason_set :
    hasWithReason (set conditions type status reason message now) type status reason = true := by
  obtain ⟨c, hc, agree⟩ := exists_mem_put
    ⟨type, status, some now.format, some reason, some message⟩ conditions
  exact hasWithReason_iff.mpr ⟨c, hc, agree.type, agree.status, agree.reason⟩

theorem has_set : has (set conditions type status reason message now) type status = true :=
  has_of_hasWithReason hasWithReason_set

/-- Setting a condition to a status brings in no other status. -/
theorem has_of_has_set {other : Truth} (hne : other ≠ status)
    (h : has (set conditions type status reason message now) type other = true) :
    has conditions type other = true := by
  obtain ⟨c, hc, ht, hs⟩ := has_iff.mp h
  rcases mem_put hc with hold | agree
  · exact has_iff.mpr ⟨c, hold, ht, hs⟩
  · exact absurd (hs.symm.trans agree.status) hne

/-- A reason is there after a condition was set if it was there before, or was set just now. -/
theorem hasWithReason_of_hasWithReason_set {other : Truth} {cause : String}
    (h : hasWithReason (set conditions type status reason message now) type other cause = true) :
    hasWithReason conditions type other cause = true ∨ (other = status ∧ cause = reason) := by
  obtain ⟨c, hc, ht, hs, hr⟩ := hasWithReason_iff.mp h
  rcases mem_put hc with hold | agree
  · exact .inl (hasWithReason_iff.mpr ⟨c, hold, ht, hs, hr⟩)
  · have hcause : some cause = some reason := hr.symm.trans agree.reason
    exact .inr ⟨hs.symm.trans agree.status, Option.some.inj hcause⟩

/-- Conditions of other types stay as they are. -/
theorem PutsFirst.has_eq {c : Condition} {old new : List Condition} (h : PutsFirst c old new)
    {other : String} (hne : other ≠ c.type) (status : Truth) :
    has new other status = has old other status := by
  obtain ⟨before, after, _, rfl, ⟨d, hd, rfl⟩ | ⟨rfl, rfl⟩⟩ := h
  · simp [has, hd, hne.symm]
  · simp [has, hne.symm]

/-- What is set says nothing about other types. -/
theorem has_set_of_ne {other : String} (hne : other ≠ type) (truth : Truth) :
    has (set conditions type status reason message now) other truth = has conditions other truth := by
  obtain ⟨c, agree, puts⟩ := putsFirst_put
    ⟨type, status, some now.format, some reason, some message⟩ conditions
  refine puts.has_eq ?_ truth
  rw [agree.type]
  exact hne

/-- In place of the only condition of a type, the condition that was set is the only one. -/
theorem PutsFirst.only {c : Condition} {old new : List Condition} (h : PutsFirst c old new)
    (single : old.countP (fun d => d.type = c.type) ≤ 1) : ∀ d ∈ new, d.type = c.type → d = c := by
  obtain ⟨before, after, hbefore, rfl, hold⟩ := h
  have hafter : ∀ d ∈ after, d.type ≠ c.type := by
    rcases hold with ⟨x, hx, rfl⟩ | ⟨_, rfl⟩
    · have hnone : after.countP (fun d => d.type = c.type) = 0 := by
        rw [List.countP_append, List.countP_cons_of_pos (by simpa using hx)] at single
        omega
      simpa using List.countP_eq_zero.mp hnone
    · simp
  intro d hd htype
  rcases List.mem_append.mp hd with hd | hd
  · exact absurd htype (hbefore d hd)
  · rcases List.mem_cons.mp hd with rfl | hd
    · rfl
    · exact absurd htype (hafter d hd)

/-- Where there is at most one condition of a type, setting one leaves it with no other status. -/
theorem has_set_eq_false_of_single {other : Truth}
    (single : conditions.countP (fun d => d.type = type) ≤ 1) (hne : other ≠ status) :
    has (set conditions type status reason message now) type other = false := by
  obtain ⟨c, agree, puts⟩ := putsFirst_put
    ⟨type, status, some now.format, some reason, some message⟩ conditions
  have htype : c.type = type := agree.type
  rw [has_eq_false_iff]
  rintro d hd ⟨hd', rfl⟩
  obtain rfl : d = c := puts.only (htype.symm ▸ single) d hd (hd'.trans htype.symm)
  exact hne agree.status

end CertIssuer.Conditions

import CertIssuer.Json.MergePatch
import CertIssuer.Json.Record

/-!
What a merge patch leaves of the members of an object. A patch that names a member puts one value in
its place, or takes it out, and members that it does not name stay as they are. A record is read
from its members by name, so these are all that a reader can tell.
-/

namespace CertIssuer.Json

variable {fields : List (String × Json)} {name n : String} {value : Json}

/-! ### The members of a name -/

/-- The members of a name. -/
def named (name : String) (fields : List (String × Json)) : List (String × Json) :=
  fields.filter fun m => m.1 = name

theorem named_cons_of_eq {m : String × Json} (h : m.1 = n) :
    named n (m :: fields) = m :: named n fields := List.filter_cons_of_pos (by simpa using h)

theorem named_cons_of_ne {m : String × Json} (h : m.1 ≠ n) :
    named n (m :: fields) = named n fields := List.filter_cons_of_neg (by simpa using h)

/-- The first member of a name is the one that a record is read from. -/
theorem lookup_eq_head? (fields : List (String × Json)) (n : String) :
    fields.lookup n = (named n fields).head?.map (·.2) := by
  induction fields with
  | nil => rfl
  | cons m fields ih =>
    obtain ⟨k, value⟩ := m
    by_cases h : k = n
    · rw [named_cons_of_eq h, List.lookup_cons, h, beq_self_eq_true]
      rfl
    · rw [named_cons_of_ne h, List.lookup_cons, beq_false_of_ne (Ne.symm h)]
      exact ih

/-- The last one is the one that metadata are read from. -/
theorem lookup_reverse_eq_getLast? (fields : List (String × Json)) (n : String) :
    fields.reverse.lookup n = (named n fields).getLast?.map (·.2) := by
  rw [lookup_eq_head?, named, List.filter_reverse, List.head?_reverse]
  rfl

theorem named_without (name n : String) (fields : List (String × Json)) :
    named n (without name fields) = if n = name then [] else named n fields := by
  rw [named, without, List.filter_filter]
  by_cases h : n = name
  · rw [if_pos h]
    refine List.filter_eq_nil_iff.mpr fun m _ => ?_
    simp [h]
  · rw [if_neg h]
    refine List.filter_congr fun m _ => ?_
    by_cases hm : m.1 = n <;> simp [hm, h]

/-- A member that was put is the only one of its name. -/
theorem named_withMember (name n : String) (value : Json) (fields : List (String × Json)) :
    named n (withMember name value fields)
      = if n = name then [(name, value)] else named n fields := by
  induction fields with
  | nil => by_cases h : n = name <;> simp [withMember, named, h, eq_comm]
  | cons m fields ih =>
    unfold withMember
    split
    · next hm =>
      have hrest := named_without name n fields
      by_cases h : n = name
      · rw [if_pos h] at hrest ⊢
        rw [named_cons_of_eq h.symm, hrest]
      · rw [if_neg h] at hrest ⊢
        have hne : m.1 ≠ n := fun e => h (e.symm.trans hm)
        rw [named_cons_of_ne (Ne.symm h), hrest, named_cons_of_ne hne]
    · next hm =>
      by_cases hn : m.1 = n
      · have h : ¬ n = name := fun e => hm (hn.trans e)
        rw [if_neg h] at ih ⊢
        rw [named_cons_of_eq hn, ih, named_cons_of_eq hn]
      · rw [named_cons_of_ne hn, ih, named_cons_of_ne hn]

/-! ### Members that are put or left -/

/-- The members with a value for a name if there is one, and otherwise as they are. -/
def withMember? (name : String) (value : Option Json) (fields : List (String × Json)) :
    List (String × Json) :=
  match value with
  | some v => withMember name v fields
  | none => fields

@[simp] theorem lookup_withMember (name n : String) (value : Json)
    (fields : List (String × Json)) : (withMember name value fields).lookup n
      = if n = name then some value else fields.lookup n := by
  rw [lookup_eq_head?, named_withMember]
  split
  · rfl
  · exact (lookup_eq_head? fields n).symm

@[simp] theorem lookup_without (name n : String) (fields : List (String × Json)) :
    (without name fields).lookup n = if n = name then none else fields.lookup n := by
  rw [lookup_eq_head?, named_without]
  split
  · rfl
  · exact (lookup_eq_head? fields n).symm

@[simp] theorem lookup_reverse_withMember (name n : String) (value : Json)
    (fields : List (String × Json)) : (withMember name value fields).reverse.lookup n
      = if n = name then some value else fields.reverse.lookup n := by
  rw [lookup_reverse_eq_getLast?, named_withMember]
  split
  · rfl
  · exact (lookup_reverse_eq_getLast? fields n).symm

@[simp] theorem lookup_withMember? (name n : String) (value : Option Json)
    (fields : List (String × Json)) : (withMember? name value fields).lookup n
      = if n = name then value.or (fields.lookup n) else fields.lookup n := by
  cases value with
  | none => simp [withMember?]
  | some v => simp [withMember?]

/-- A record is read from an object in which no declared member is repeated. -/
theorem record?_obj {names : List String} {m : String → Option Json} :
    record? names (.obj fields) = some m
      ↔ (∀ n ∈ names, occurrences fields n ≤ 1) ∧ m = fun n => fields.lookup n := by
  have hrecord : record? names (.obj fields)
      = if names.all fun n => occurrences fields n ≤ 1 then some fun n => fields.lookup n
        else none := rfl
  rw [hrecord]
  split
  · next h =>
    have hall : ∀ n ∈ names, occurrences fields n ≤ 1 := by simpa using h
    rw [Option.some.injEq, eq_comm, and_iff_right hall]
  · next h =>
    have hsome : ¬ ∀ n ∈ names, occurrences fields n ≤ 1 := by simpa using h
    simp [hsome]

end CertIssuer.Json

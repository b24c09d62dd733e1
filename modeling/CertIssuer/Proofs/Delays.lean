import CertIssuer.Controller.Policy

/-!
The delays of many objects in one registry. An object has the delays that it would have on its own,
since what is done under one key shows under no other key, and different objects have different
keys as long as no slash occurs in their names.
-/

namespace CertIssuer

namespace Backoff

/-! ### The delays of one object -/

/-- The delays that remain after some were taken. -/
def after (b : Backoff) : Nat → Backoff
  | 0 => b
  | n + 1 => (b.after n).next.2

/-- The delay that is next after some were taken. -/
def delay (b : Backoff) (n : Nat) : UInt64 := (b.after n).next.1

variable {b : Backoff} {bound : UInt64}

theorem greatest_after (b : Backoff) (n : Nat) : (b.after n).greatest = b.greatest := by
  induction n with
  | zero => rfl
  | succ n ih => exact ih

/-- A later delay is at most the greatest one. -/
theorem current_next_le (b : Backoff) : b.next.2.current ≤ b.greatest := by
  change (if b.greatest < saturatingAdd b.previous b.current then b.greatest
    else saturatingAdd b.previous b.current) ≤ b.greatest
  split
  · exact UInt64.le_refl _
  · next h => exact UInt64.not_lt.mp h

/-- Every delay but the first is at most the greatest one. -/
theorem delay_succ_le (b : Backoff) (n : Nat) : b.delay (n + 1) ≤ b.greatest := by
  have hnext := current_next_le (b.after n)
  rwa [greatest_after] at hnext

/-- No delay is over what bounds the first and the greatest one. -/
theorem delay_le (hcurrent : b.current ≤ bound) (hgreatest : b.greatest ≤ bound) (n : Nat) :
    b.delay n ≤ bound := by
  cases n with
  | zero => exact hcurrent
  | succ n => exact UInt64.le_trans (b.delay_succ_le n) hgreatest

end Backoff

/-! ### The delays of all objects -/

namespace BackoffRegistry

variable {r : BackoffRegistry} {key k : String}

/-- The other objects keep what they have. -/
theorem lookup_others (r : BackoffRegistry) (key k : String) :
    (r.others key).lookup k = if k = key then none else r.states.lookup k := by
  unfold others
  induction r.states with
  | nil => simp
  | cons entry states ih =>
    obtain ⟨name, b⟩ := entry
    by_cases hname : name = key
    · rw [List.filter_cons_of_neg (by simpa using hname), ih]
      by_cases hk : k = key
      · rw [if_pos hk, if_pos hk]
      · rw [if_neg hk, if_neg hk, List.lookup_cons, beq_false_of_ne fun e => hk (e.trans hname)]
    · rw [List.filter_cons_of_pos (by simpa using hname), List.lookup_cons, List.lookup_cons, ih]
      by_cases hk : k = name
      · simp [hk, hname]
      · simp [beq_false_of_ne hk]

@[simp] theorem least_reset (r : BackoffRegistry) (key : String) :
    (r.reset key).least = r.least := rfl

@[simp] theorem greatest_reset (r : BackoffRegistry) (key : String) :
    (r.reset key).greatest = r.greatest := rfl

theorem state_next_self (r : BackoffRegistry) (key : String) :
    (r.next key).2.state key = (r.state key).next.2 := by
  change (List.lookup key ((key, (r.state key).next.2) :: r.others key)).getD _ = _
  rw [List.lookup_cons_self, Option.getD_some]

theorem state_next_of_ne (h : k ≠ key) : (r.next key).2.state k = r.state k := by
  change (List.lookup k ((key, (r.state key).next.2) :: r.others key)).getD _ = _
  rw [List.lookup_cons, beq_false_of_ne h, lookup_others, if_neg h]
  rfl

theorem state_reset_self (r : BackoffRegistry) (key : String) :
    (r.reset key).state key = .new r.least r.greatest := by
  change ((r.others key).lookup key).getD _ = _
  rw [lookup_others, if_pos rfl, Option.getD_none, least_reset, greatest_reset]

theorem state_reset_of_ne (h : k ≠ key) : (r.reset key).state k = r.state k := by
  change ((r.others key).lookup k).getD _ = _
  rw [lookup_others, if_neg h]
  rfl

end BackoffRegistry

/-! ### Keys -/

/-- No slash occurs in the text. -/
def Slashless (s : String) : Prop := '/' ∉ s.toList

instance (s : String) : Decidable (Slashless s) := inferInstanceAs (Decidable ('/' ∉ s.toList))

theorem append_slash_inj {l l' t t' : List Char} (h : '/' ∉ l) (h' : '/' ∉ l')
    (heq : l ++ '/' :: t = l' ++ '/' :: t') : l = l' ∧ t = t' := by
  induction l generalizing l' with
  | nil =>
    cases l' with
    | nil =>
      cases heq
      exact ⟨rfl, rfl⟩
    | cons c l' =>
      cases heq
      exact absurd List.mem_cons_self h'
  | cons c l ih =>
    cases l' with
    | nil =>
      cases heq
      exact absurd List.mem_cons_self h
    | cons c' l' =>
      obtain ⟨rfl, htail⟩ := List.cons.inj heq
      obtain ⟨rfl, rfl⟩ := ih (fun m => h (List.mem_cons_of_mem _ m))
        (fun m => h' (List.mem_cons_of_mem _ m)) htail
      exact ⟨rfl, rfl⟩

/-- A text is taken apart at its first slash. -/
theorem Slashless.append_inj {s t s' t' : String} (hs : Slashless s) (hs' : Slashless s')
    (h : s ++ "/" ++ t = s' ++ "/" ++ t') : s = s' ∧ t = t' := by
  have split : ∀ u v : String, (u ++ "/" ++ v).toList = u.toList ++ '/' :: v.toList := by
    intro u v
    rw [String.toList_append, String.toList_append, List.append_assoc]
    rfl
  have hlist := congrArg String.toList h
  rw [split, split] at hlist
  obtain ⟨hhead, htail⟩ := append_slash_inj hs hs' hlist
  exact ⟨String.toList_inj.mp hhead, String.toList_inj.mp htail⟩

theorem not_slashless_append (s t : String) : ¬ Slashless (s ++ "/" ++ t) := by
  intro h
  apply h
  rw [String.toList_append, String.toList_append]
  exact List.mem_append_left _ (List.mem_append_right _ List.mem_cons_self)

theorem WatchedKind.slashless_text (kind : WatchedKind) : Slashless kind.text := by
  obtain _ | (_ | _) := kind <;> decide

/-- A kind is found again by its name. -/
theorem WatchedKind.ofText?_text (kind : WatchedKind) : ofText? kind.text = some kind := by
  obtain _ | (_ | _) := kind <;> rfl

theorem WatchedKind.text_inj {kind kind' : WatchedKind} (h : kind.text = kind'.text) :
    kind = kind' := by
  have found := ofText?_text kind
  rw [h, ofText?_text kind'] at found
  exact (Option.some.inj found).symm

namespace ObjectRef

/-- Neither the name nor the namespace has a slash. -/
structure Plain (o : ObjectRef) : Prop where
  name : Slashless o.name
  ns : ∀ ns ∈ o.ns, Slashless ns

instance (o : ObjectRef) : Decidable o.Plain :=
  decidable_of_iff (Slashless o.name ∧ ∀ ns ∈ o.ns, Slashless ns)
    ⟨fun h => ⟨h.1, h.2⟩, fun h => ⟨h.1, h.2⟩⟩

/-- The key of an object without its kind. -/
def place (o : ObjectRef) : String :=
  match o.ns with
  | some ns => ns ++ "/" ++ o.name
  | none => o.name

theorem backoffKey_eq (o : ObjectRef) : o.backoffKey = o.kind.text ++ "/" ++ o.place := by
  obtain ⟨kind, _ | ns, name⟩ := o
  · rfl
  · simp only [backoffKey, objectPath, place, String.append_assoc]

/-- A namespace is told from a name by the slash after it. -/
theorem place_inj {o o' : ObjectRef} (plain : o.Plain) (plain' : o'.Plain)
    (h : o.place = o'.place) : o.ns = o'.ns ∧ o.name = o'.name := by
  obtain ⟨kind, ns, name⟩ := o
  obtain ⟨kind', ns', name'⟩ := o'
  match ns, ns' with
  | none, none => exact ⟨rfl, h⟩
  | some ns, some ns' =>
    obtain ⟨rfl, hname⟩ := (plain.ns ns rfl).append_inj (plain'.ns ns' rfl) h
    exact ⟨rfl, hname⟩
  | none, some ns' =>
    have hplain := plain.name
    rw [show name = ns' ++ "/" ++ name' from h] at hplain
    exact absurd hplain (not_slashless_append ns' name')
  | some ns, none =>
    have hplain' := plain'.name
    rw [show name' = ns ++ "/" ++ name from h.symm] at hplain'
    exact absurd hplain' (not_slashless_append ns name)

/-- Different objects have different keys, also if they differ in nothing but their kind, their
namespace or in whether they have one. -/
theorem backoffKey_inj {o o' : ObjectRef} (plain : o.Plain) (plain' : o'.Plain) :
    o.backoffKey = o'.backoffKey ↔ o = o' := by
  refine ⟨fun h => ?_, fun h => h ▸ rfl⟩
  rw [backoffKey_eq, backoffKey_eq] at h
  obtain ⟨hkind, hplace⟩ := o.kind.slashless_text.append_inj o'.kind.slashless_text h
  obtain ⟨hns, hname⟩ := place_inj plain plain' hplace
  obtain ⟨kind, ns, name⟩ := o
  obtain ⟨kind', ns', name'⟩ := o'
  rw [ObjectRef.mk.injEq]
  exact ⟨WatchedKind.text_inj hkind, hns, hname⟩

/-- A name with a slash could stand for a namespace and a name. -/
example : (ObjectRef.mk .request none "default/web").backoffKey
    = (ObjectRef.mk .request (some "default") "web").backoffKey := by decide

end ObjectRef

end CertIssuer

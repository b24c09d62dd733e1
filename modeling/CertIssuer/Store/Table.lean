/-!
Tables: at most one value for each key. The equations of `get?` say all there is to know about a
table: an insertion or a removal is seen under its own key and under no other.
-/

namespace CertIssuer

/-- A table. The first entry of a key is the one that counts. -/
structure Table (κ α : Type) where
  entries : List (κ × α)

namespace Table

variable {κ α : Type} [DecidableEq κ]

/-- The table without entries. -/
def empty : Table κ α := ⟨[]⟩

/-- The value of a key. -/
def get? (t : Table κ α) (key : κ) : Option α :=
  (t.entries.find? fun e => e.1 = key).map (·.2)

/-- The table without a key. -/
def erase (t : Table κ α) (key : κ) : Table κ α := ⟨t.entries.filter fun e => e.1 ≠ key⟩

/-- The table with a value for a key, whatever it was before. -/
def insert (t : Table κ α) (key : κ) (value : α) : Table κ α :=
  ⟨(key, value) :: (t.erase key).entries⟩

/-! ### Equations -/

@[simp] theorem get?_empty (key : κ) : (empty : Table κ α).get? key = none := rfl

/-- A removed key has no value, and every other key keeps its own. -/
theorem get?_erase (t : Table κ α) (key other : κ) :
    (t.erase key).get? other = if other = key then none else t.get? other := by
  simp only [get?, erase, List.find?_filter]
  split
  · next h =>
    subst h
    simp
  · next h =>
    congr 2
    funext e
    by_cases he : e.1 = other <;> simp [he, h]

/-- An inserted key has the inserted value, and every other key keeps its own. -/
theorem get?_insert (t : Table κ α) (key other : κ) (value : α) :
    (t.insert key value).get? other = if other = key then some value else t.get? other := by
  by_cases h : key = other
  · simp [get?, insert, h]
  · have hne : ¬ other = key := fun e => h e.symm
    have herase := get?_erase t key other
    simp only [get?, hne, if_false] at herase ⊢
    simpa [insert, h] using herase

@[simp] theorem get?_insert_self (t : Table κ α) (key : κ) (value : α) :
    (t.insert key value).get? key = some value := by
  simp [get?_insert]

/-- Of the values inserted for a key, the last one is kept. -/
theorem insert_insert (t : Table κ α) (key : κ) (a b : α) :
    (t.insert key a).insert key b = t.insert key b := by
  simp [insert, erase]

end Table
end CertIssuer

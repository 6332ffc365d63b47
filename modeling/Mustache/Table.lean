/-!
# Tables

Values by name. Of each operation it is stated what a look-up finds afterwards; the order of the
entries is not part of a table's meaning.
-/

namespace Mustache

set_option autoImplicit false

/-- Values by name. -/
structure Table (Item : Type) where
  entries : List (String × Item)

namespace Table

variable {Item : Type}

def empty : Table Item := ⟨[]⟩

instance : Inhabited (Table Item) := ⟨empty⟩

def find? (table : Table Item) (name : String) : Option Item := table.entries.lookup name

def contains (table : Table Item) (name : String) : Bool := (table.find? name).isSome

/-- Takes away the value of a name. -/
def erase (table : Table Item) (name : String) : Table Item :=
  ⟨table.entries.filter fun entry => entry.1 != name⟩

/-- Gives a name a value, in place of the value that it had. -/
def insert (table : Table Item) (name : String) (item : Item) : Table Item :=
  ⟨(name, item) :: (table.erase name).entries⟩

@[simp]
theorem find?_empty (name : String) : (empty : Table Item).find? name = none := rfl

theorem find?_erase (table : Table Item) (name other : String) :
    (table.erase name).find? other = if other = name then none else table.find? other := by
  unfold find? erase
  induction table.entries with
  | nil => simp
  | cons entry rest ih =>
    obtain ⟨key, item⟩ := entry
    by_cases same : key = name
    · subst same
      by_cases asked : other = key
      · simpa [asked] using ih
      · simpa [asked, List.lookup_cons, beq_eq_false_iff_ne.2 asked] using ih
    · by_cases asked : other = key
      · subst asked
        simp [same]
      · simpa [same, asked, List.lookup_cons, beq_eq_false_iff_ne.2 asked] using ih

theorem find?_insert (table : Table Item) (name other : String) (item : Item) :
    (table.insert name item).find? other = if other = name then some item else table.find? other := by
  by_cases asked : other = name
  · simp [insert, find?, asked]
  · have erased := table.find?_erase name other
    simp only [asked, if_false] at erased ⊢
    rw [← erased]
    simp [insert, find?, List.lookup_cons, beq_eq_false_iff_ne.2 asked]

end Table

end Mustache

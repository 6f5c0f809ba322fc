/-!
# Tables

A table holds values under names, in the order in which the names were first put in. A name that
is put in again keeps its place.
-/
namespace Lag

/-- Values under names, in order. -/
abbrev Table (α : Type) := List (String × α)

namespace Table

variable {α : Type}

/-- The value under a name. -/
def find? (table : Table α) (name : String) : Option α := List.lookup name table

/-- Put a value under a name. -/
def put (name : String) (value : α) : Table α → Table α
  | [] => [(name, value)]
  | (other, old) :: rest =>
    if other = name then (name, value) :: rest else (other, old) :: put name value rest

/-- Take out a name. -/
def erase (table : Table α) (name : String) : Table α := table.filter (·.1 != name)

/-- Whether a name is in the table. -/
def has (table : Table α) (name : String) : Bool := (table.find? name).isSome

/-- The names in order. -/
def names (table : Table α) : List String := table.map (·.1)

/-- The values in order. -/
def values (table : Table α) : List α := table.map (·.2)

/-- A value that was put under a name is found there. -/
@[simp] theorem find?_put (table : Table α) (name : String) (value : α) :
    (put name value table).find? name = some value := by
  induction table with
  | nil => simp [put, find?]
  | cons entry rest ih =>
    obtain ⟨other, old⟩ := entry
    unfold put
    split
    · simp [find?]
    · rename_i different
      have apart : (name == other) = false := by simpa using fun h => different h.symm
      simpa [find?, List.lookup_cons, apart] using ih

/-- Putting a value under a name changes no other name. -/
theorem find?_put_ne (table : Table α) {name other : String} (value : α)
    (different : other ≠ name) : (put name value table).find? other = table.find? other := by
  have apart : (other == name) = false := by simpa using different
  induction table with
  | nil => simp [put, find?, List.lookup_cons, apart]
  | cons entry rest ih =>
    obtain ⟨first, old⟩ := entry
    unfold put
    split
    · rename_i same
      subst same
      simp [find?, List.lookup_cons, apart]
    · simp only [find?, List.lookup_cons] at ih ⊢
      split <;> simp_all

/-- A name that was taken out is not in the table. -/
@[simp] theorem find?_erase (table : Table α) (name : String) :
    (table.erase name).find? name = none := by
  induction table with
  | nil => rfl
  | cons entry rest ih =>
    obtain ⟨other, old⟩ := entry
    unfold erase find? at *
    by_cases same : other = name
    · simp [same, ih]
    · have apart : (name == other) = false := by simpa using fun h => same h.symm
      simp [same, List.lookup_cons, apart, ih]

/-- Taking out a name changes no other name. -/
theorem find?_erase_ne (table : Table α) {name other : String} (different : other ≠ name) :
    (table.erase name).find? other = table.find? other := by
  induction table with
  | nil => rfl
  | cons entry rest ih =>
    obtain ⟨first, old⟩ := entry
    unfold erase find? at *
    by_cases same : first = name
    · subst same
      have apart : (other == first) = false := by simpa using different
      simpa [List.lookup_cons, apart] using ih
    · simp only [bne_iff_ne, ne_eq, same, not_false_eq_true, List.filter_cons_of_pos,
        List.lookup_cons]
      split <;> simp_all

/-- A name that is put in is in the table, beside those that were in it. -/
theorem has_put (table : Table α) (name other : String) (value : α) :
    (put name value table).has other = (other == name || table.has other) := by
  unfold has
  by_cases same : other = name
  · subst same
    simp
  · rw [find?_put_ne table value same, beq_eq_false_iff_ne.2 same, Bool.false_or]

/-- A name that is taken out is not in the table; the others stay. -/
theorem has_erase (table : Table α) (name other : String) :
    (table.erase name).has other = (other != name && table.has other) := by
  unfold has
  by_cases same : other = name
  · subst same
    simp
  · rw [find?_erase_ne table same, bne_iff_ne.2 same, Bool.true_and]

/-- A name that is put in again gets the last value. -/
theorem put_put (table : Table α) (name : String) (value last : α) :
    put name last (put name value table) = put name last table := by
  induction table with
  | nil => simp [put]
  | cons entry rest ih =>
    obtain ⟨other, old⟩ := entry
    by_cases same : other = name
    · simp [put, same]
    · simp [put, same, ih]

/-- The names that are in the table. -/
theorem has_iff_mem (table : Table α) (name : String) :
    table.has name = true ↔ name ∈ table.names := by
  unfold has find? names
  induction table with
  | nil => simp
  | cons entry rest ih =>
    obtain ⟨other, old⟩ := entry
    by_cases same : name = other
    · simp [same]
    · simp [List.lookup_cons, beq_eq_false_iff_ne.2 same, same, ih]

/-- Tables with the same names. -/
theorem has_eq_of_names {β : Type} {table : Table α} {other : Table β}
    (same : table.names = other.names) (name : String) : table.has name = other.has name := by
  rw [Bool.eq_iff_iff, has_iff_mem, has_iff_mem, same]

/-- A name that is put in keeps its place, or is the last one. -/
theorem names_put (table : Table α) (name : String) (value : α) :
    (put name value table).names = if table.has name then table.names else table.names ++ [name] := by
  induction table with
  | nil => rfl
  | cons entry rest ih =>
    obtain ⟨other, old⟩ := entry
    unfold has find? names at *
    by_cases same : other = name
    · simp [put, same]
    · have apart : (name == other) = false := by simpa using fun is => same is.symm
      simp only [put, if_neg same, List.map_cons, ih, List.lookup_cons, apart]
      split <;> rfl

/-- The names that stay when one is taken out. -/
theorem names_erase (table : Table α) (name : String) :
    (table.erase name).names = table.names.filter (· != name) := by
  unfold erase names
  rw [List.filter_map]
  rfl

/-- A value that stands under a name is found there, if no name is in the table twice. -/
theorem find?_of_mem {table : Table α} (once : table.names.Nodup) {name : String} {value : α}
    (inside : (name, value) ∈ table) : table.find? name = some value := by
  unfold find? names at *
  induction table with
  | nil => cases inside
  | cons entry rest ih =>
    obtain ⟨other, old⟩ := entry
    obtain ⟨fresh, once⟩ := List.nodup_cons.1 once
    rcases List.mem_cons.1 inside with first | later
    · cases first
      simp
    · have apart : name ≠ other := by
        rintro rfl
        exact fresh (List.mem_map.2 ⟨_, later, rfl⟩)
      simp only [List.lookup_cons, beq_eq_false_iff_ne.2 apart]
      exact ih once later

end Table

end Lag

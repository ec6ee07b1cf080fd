/-!
# Entries of a store

Keys with their values.  A key has at most one value, the one written last.
-/

set_option autoImplicit false

namespace AdaptiveView

structure Entries where
  rows : List (String × String)

namespace Entries

def empty : Entries := ⟨[]⟩

def get? (entries : Entries) (key : String) : Option String :=
  entries.rows.lookup key

/-- The rows with a value written to a key, which is new at the end if it was absent. -/
def put (key value : String) : List (String × String) → List (String × String)
  | [] => [(key, value)]
  | row :: rest => if row.1 = key then (key, value) :: rest else row :: put key value rest

def insert (entries : Entries) (key value : String) : Entries :=
  ⟨put key value entries.rows⟩

def erase (entries : Entries) (key : String) : Entries :=
  ⟨entries.rows.filter (·.1 != key)⟩

def size (entries : Entries) : Nat :=
  entries.rows.length

theorem lookup_row (key : String) (row : String × String) (rest : List (String × String)) :
    (row :: rest).lookup key = if key = row.1 then some row.2 else rest.lookup key := by
  rw [List.lookup_cons]
  by_cases same : key = row.1
  · rw [if_pos same, beq_iff_eq.mpr same]
  · rw [if_neg same, beq_eq_false_iff_ne.mpr same]

@[simp]
theorem get?_insert (entries : Entries) (key value other : String) :
    (entries.insert key value).get? other =
      if other = key then some value else entries.get? other := by
  obtain ⟨rows⟩ := entries
  simp only [get?, insert]
  induction rows with
  | nil => simp only [put, lookup_row]
  | cons row rest ih =>
      by_cases same : row.1 = key
      · simp only [put, same, if_true, lookup_row]
        split <;> rfl
      · simp only [put, same, if_false, lookup_row, ih]
        by_cases here : other = row.1
        · simp [here, same]
        · simp [here]

@[simp]
theorem get?_erase (entries : Entries) (key other : String) :
    (entries.erase key).get? other = if other = key then none else entries.get? other := by
  obtain ⟨rows⟩ := entries
  simp only [get?, erase]
  induction rows with
  | nil => simp
  | cons row rest ih =>
      by_cases same : row.1 = key
      · rw [List.filter_cons_of_neg (by simp [same]), ih, lookup_row, same]
        split <;> rfl
      · rw [List.filter_cons_of_pos (by simp [same]), lookup_row, lookup_row, ih]
        by_cases here : other = row.1
        · simp [here, same]
        · simp [here]

end Entries

end AdaptiveView

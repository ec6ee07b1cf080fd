import AdaptiveView.Statistics

/-!
# Selections

The identifiers the user has selected, in the order in which they were picked.  An identifier is in
a selection at most once.  Filters, sorting and pages do not touch a selection; a refreshed
collection removes what it no longer holds.
-/

set_option autoImplicit false

namespace AdaptiveView

structure Selection (I : Type) where
  ids : List I
  nodup : ids.Nodup

namespace Selection

variable {I : Type} [DecidableEq I]

def empty : Selection I := ⟨[], List.nodup_nil⟩

def size (selection : Selection I) : Nat :=
  selection.ids.length

def isEmpty (selection : Selection I) : Bool :=
  selection.ids.isEmpty

def contains (selection : Selection I) (id : I) : Bool :=
  decide (id ∈ selection.ids)

/-- A new member comes last; one that is there already stays where it is. -/
def insert (selection : Selection I) (id : I) : Selection I :=
  if h : id ∈ selection.ids then selection
  else
    { ids := selection.ids ++ [id]
      nodup := by
        rw [List.nodup_append]
        refine ⟨selection.nodup, by simp, ?_⟩
        intro a inside b last same
        simp only [List.mem_singleton] at last
        exact h (last ▸ same ▸ inside) }

def filter (selection : Selection I) (keep : I → Bool) : Selection I :=
  ⟨selection.ids.filter keep, selection.nodup.sublist List.filter_sublist⟩

def erase (selection : Selection I) (id : I) : Selection I :=
  selection.filter (· != id)

def set (selection : Selection I) (id : I) (selected : Bool) : Selection I :=
  if selected then selection.insert id else selection.erase id

def insertAll (selection : Selection I) (ids : List I) : Selection I :=
  ids.foldl insert selection

/-- Turns one identifier round. -/
def flip (selection : Selection I) (id : I) : Selection I :=
  if selection.contains id then selection.erase id else selection.insert id

/-- Turns identifiers round one after the other. -/
def invert (selection : Selection I) (ids : List I) : Selection I :=
  ids.foldl flip selection

/-- Adds identifiers and tells how many were new. -/
def addAll (selection : Selection I) (ids : List I) : Nat × Selection I :=
  let grown := selection.insertAll ids
  (grown.size - selection.size, grown)

/-- Whether all listed identifiers are selected; not so for an empty list. -/
def holdsAll (selection : Selection I) (ids : List I) : Bool :=
  !ids.isEmpty && ids.all selection.contains

/-- Whether some listed identifiers are selected and some are not. -/
def holdsSome (selection : Selection I) (ids : List I) : Bool :=
  ids.any selection.contains && ids.any fun id => !selection.contains id

/-- Keeps the members that are listed and tells how many went. -/
def keepOnly (selection : Selection I) (present : List I) : Nat × Selection I :=
  let kept := selection.filter fun id => decide (id ∈ present)
  (selection.size - kept.size, kept)

@[simp]
theorem mem_insert {selection : Selection I} {id other : I} :
    other ∈ (selection.insert id).ids ↔ other ∈ selection.ids ∨ other = id := by
  unfold insert
  split
  · constructor
    · exact Or.inl
    · rintro (h | rfl)
      · exact h
      · assumption
  · simp

@[simp]
theorem mem_erase {selection : Selection I} {id other : I} :
    other ∈ (selection.erase id).ids ↔ other ∈ selection.ids ∧ other ≠ id := by
  simp [erase, filter]

theorem mem_insertAll {selection : Selection I} {ids : List I} {other : I} :
    other ∈ (selection.insertAll ids).ids ↔ other ∈ selection.ids ∨ other ∈ ids := by
  unfold insertAll
  induction ids generalizing selection with
  | nil => simp
  | cons id rest ih => simp [ih, or_assoc]

theorem mem_keepOnly {selection : Selection I} {present : List I} {other : I} :
    other ∈ (selection.keepOnly present).2.ids ↔ other ∈ selection.ids ∧ other ∈ present := by
  simp [keepOnly, filter]

section Records
variable {R : Type} [Record R]

/-- The selected records in the order of the collection. -/
def records (selection : Selection (Record.Id R)) (collection : List R) : List R :=
  collection.filter fun record => selection.contains (Record.id record)

def stats (selection : Selection (Record.Id R)) (collection : List R) : SelectionStats :=
  .of (selection.records collection)

/-- Adds the records for which the test holds and tells how many were new. -/
def addWhere (selection : Selection (Record.Id R)) (candidates : List R) (test : R → Bool) :
    Nat × Selection (Record.Id R) :=
  selection.addAll ((candidates.filter test).map Record.id)

end Records

end Selection

end AdaptiveView

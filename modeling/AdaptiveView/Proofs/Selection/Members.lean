import AdaptiveView.Selection
import Mathlib.Algebra.Group.Nat.Even
import Mathlib.Data.List.Basic

/-!
# The members of a selection

What each operation makes of the members and of their order.  Members that are added come last, in the
order in which they are listed and each of them once; members that go leave the others where they
stand.  To turn identifiers round is to turn each of them as often as it is listed.
-/

set_option autoImplicit false

namespace AdaptiveView

namespace Selection

variable {I : Type} [DecidableEq I]

omit [DecidableEq I] in
theorem eq_of_ids {one other : Selection I} (same : one.ids = other.ids) : one = other := by
  cases one
  cases other
  cases same
  rfl

theorem insert_of_mem {selection : Selection I} {id : I} (inside : id ∈ selection.ids) :
    selection.insert id = selection :=
  dif_pos inside

theorem ids_insert_of_not_mem {selection : Selection I} {id : I}
    (outside : id ∉ selection.ids) : (selection.insert id).ids = selection.ids ++ [id] := by
  unfold insert
  rw [dif_neg outside]

theorem ids_erase (selection : Selection I) (id : I) :
    (selection.erase id).ids = selection.ids.filter (· != id) :=
  rfl

theorem erase_of_not_mem {selection : Selection I} {id : I} (outside : id ∉ selection.ids) :
    selection.erase id = selection := by
  apply eq_of_ids
  rw [ids_erase, List.filter_eq_self]
  intro other inside
  have different : other ≠ id := by
    intro same
    exact outside (same ▸ inside)
  simpa using different

theorem mem_set {selection : Selection I} {id other : I} {selected : Bool} :
    other ∈ (selection.set id selected).ids ↔
      if other = id then selected = true else other ∈ selection.ids := by
  unfold set
  by_cases same : other = id
  · cases selected <;> simp [same]
  · cases selected <;> simp [same]

/-! ## Adding -/

theorem insertAll_of_subset {selection : Selection I} {ids : List I}
    (inside : ∀ id ∈ ids, id ∈ selection.ids) : selection.insertAll ids = selection := by
  induction ids with
  | nil => rfl
  | cons id rest ih =>
      have first : selection.insert id = selection := insert_of_mem (inside id List.mem_cons_self)
      rw [insertAll, List.foldl_cons, first]
      apply ih
      intro other among
      exact inside other (List.mem_cons_of_mem _ among)

theorem ids_insertAll (selection : Selection I) (ids : List I) :
    (selection.insertAll ids).ids =
      selection.ids ++ (ids.filter fun id => id ∉ selection.ids).eraseDups := by
  induction ids generalizing selection with
  | nil => simp [insertAll]
  | cons id rest ih =>
      have later := ih (selection.insert id)
      rw [insertAll, List.foldl_cons, ← insertAll, later]
      by_cases inside : id ∈ selection.ids
      · rw [insert_of_mem inside, List.filter_cons_of_neg (by simpa using inside)]
      · rw [List.filter_cons_of_pos (by simpa using inside), List.eraseDups_cons,
          List.filter_filter, ids_insert_of_not_mem inside, List.append_assoc]
        -- what is new after `id` is what was new before, without `id`
        have others : (rest.filter fun other => other ∉ selection.ids ++ [id]) =
            rest.filter fun other => (!other == id) && decide (other ∉ selection.ids) := by
          apply List.filter_congr
          intro other _
          by_cases same : other = id <;> simp [same]
        rw [others]
        rfl

theorem ids_insertAll_empty (ids : List I) :
    ((empty : Selection I).insertAll ids).ids = ids.eraseDups := by
  rw [ids_insertAll]
  simp [empty]

theorem ids_addAll (selection : Selection I) (ids : List I) :
    (selection.addAll ids).2.ids =
      selection.ids ++ (ids.filter fun id => id ∉ selection.ids).eraseDups :=
  selection.ids_insertAll ids

/-- The number that is told is that of the members gained. -/
theorem addAll_fst (selection : Selection I) (ids : List I) :
    (selection.addAll ids).1 =
      ((selection.addAll ids).2.ids.filter fun id => id ∉ selection.ids).length := by
  have fresh : ∀ id ∈ (ids.filter fun id => id ∉ selection.ids).eraseDups,
      decide (id ∉ selection.ids) = true := by
    intro id among
    rw [List.mem_eraseDups] at among
    exact (List.mem_filter.mp among).2
  have kept : (selection.ids.filter fun id => id ∉ selection.ids) = [] := by
    rw [List.filter_eq_nil_iff]
    intro id inside
    simpa using inside
  rw [ids_addAll, List.filter_append, kept, List.nil_append, List.filter_eq_self.mpr fresh]
  simp only [addAll, size, ids_insertAll, List.length_append]
  omega

/-! ## Turning round -/

theorem mem_flip {selection : Selection I} {id other : I} :
    other ∈ (selection.flip id).ids ↔
      if other = id then other ∉ selection.ids else other ∈ selection.ids := by
  unfold flip contains
  by_cases same : other = id
  · subst same
    by_cases inside : other ∈ selection.ids <;> simp [inside]
  · by_cases inside : id ∈ selection.ids <;> simp [inside, same]

theorem mem_invert {selection : Selection I} {ids : List I} {other : I} :
    other ∈ (selection.invert ids).ids ↔ (other ∈ selection.ids ↔ Even (ids.count other)) := by
  induction ids generalizing selection with
  | nil => simp [invert]
  | cons id rest ih =>
      have later : other ∈ ((selection.flip id).invert rest).ids ↔
          (other ∈ (selection.flip id).ids ↔ Even (rest.count other)) := ih
      rw [invert, List.foldl_cons, ← invert, later, mem_flip]
      by_cases same : other = id
      · subst same
        rw [if_pos rfl, List.count_cons_self, Nat.even_add_one]
        tauto
      · rw [if_neg same, List.count_cons_of_ne (Ne.symm same)]

theorem mem_of_mem_invert {selection : Selection I} {ids : List I} {other : I}
    (inside : other ∈ (selection.invert ids).ids) : other ∈ selection.ids ∨ other ∈ ids := by
  by_cases before : other ∈ selection.ids
  · exact .inl before
  · apply Or.inr
    by_contra unlisted
    rw [mem_invert, List.count_eq_zero_of_not_mem unlisted] at inside
    exact before (inside.mpr Even.zero)

theorem filter_flip {selection : Selection I} {id : I} {keep : I → Bool}
    (dropped : keep id = false) :
    (selection.flip id).ids.filter keep = selection.ids.filter keep := by
  unfold flip
  split
  · rw [ids_erase, List.filter_filter]
    apply List.filter_congr
    intro other _
    by_cases same : other = id
    · simp [same, dropped]
    · simp [same]
  case isFalse missing =>
    have outside : id ∉ selection.ids := by simpa [contains] using missing
    rw [ids_insert_of_not_mem outside, List.filter_append,
      List.filter_cons_of_neg (by simp [dropped])]
    simp

/-- Members that are not listed stay, in their order. -/
theorem filter_invert {selection : Selection I} {ids : List I} {keep : I → Bool}
    (dropped : ∀ id ∈ ids, keep id = false) :
    (selection.invert ids).ids.filter keep = selection.ids.filter keep := by
  induction ids generalizing selection with
  | nil => rfl
  | cons id rest ih =>
      rw [invert, List.foldl_cons, ← invert]
      have later : ((selection.flip id).invert rest).ids.filter keep =
          (selection.flip id).ids.filter keep := by
        apply ih
        intro other among
        exact dropped other (List.mem_cons_of_mem _ among)
      rw [later, filter_flip (dropped id List.mem_cons_self)]

/-! ## Dropping -/

theorem ids_keepOnly (selection : Selection I) (present : List I) :
    (selection.keepOnly present).2.ids = selection.ids.filter (· ∈ present) :=
  rfl

/-- The number that is told is that of the members lost. -/
theorem keepOnly_fst (selection : Selection I) (present : List I) :
    (selection.keepOnly present).1 =
      (selection.ids.filter fun id => id ∉ (selection.keepOnly present).2.ids).length := by
  have lost : (selection.ids.filter fun id => id ∉ (selection.keepOnly present).2.ids) =
      selection.ids.filter fun id => !decide (id ∈ present) := by
    apply List.filter_congr
    intro id inside
    simp [mem_keepOnly, inside]
  have whole := List.length_eq_length_filter_add (l := selection.ids)
    fun id => decide (id ∈ present)
  rw [lost]
  simp only [keepOnly, size, filter]
  omega

/-! ## Questions about a list -/

theorem holdsAll_iff {selection : Selection I} {ids : List I} :
    selection.holdsAll ids = true ↔ ids ≠ [] ∧ ∀ id ∈ ids, id ∈ selection.ids := by
  cases ids <;> simp [holdsAll, contains]

theorem holdsSome_iff {selection : Selection I} {ids : List I} :
    selection.holdsSome ids = true ↔
      (∃ id ∈ ids, id ∈ selection.ids) ∧ ∃ id ∈ ids, id ∉ selection.ids := by
  simp [holdsSome, contains]

end Selection

end AdaptiveView

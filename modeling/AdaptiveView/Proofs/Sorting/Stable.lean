import AdaptiveView.Sorting
import Mathlib.Data.List.Perm.Basic

/-!
# Stable sorting

A stable sort of a list has the same items, in order, and those that compare equal as they stood.
Sorting by merging does this for every order that is total and transitive; the order of texts without
regard to case is one.
-/

set_option autoImplicit false

namespace AdaptiveView

open Std

section
variable {α : Type} (order : α → α → Ordering)

/-- `sorted` holds the items in order, equal ones as they stood. -/
structure StablySorted (items sorted : List α) : Prop where
  permuted : sorted.Perm items
  ordered : sorted.Pairwise fun a b => (order a b).isLE = true
  steady : ∀ item, (sorted.filter fun other => order item other = .eq) =
    items.filter fun other => order item other = .eq

variable [TransCmp order]

variable {order} in
theorem isLE_of_eq_both {item a b : α} (first : order item a = .eq) (second : order item b = .eq) :
    (order a b).isLE = true := by
  have reversed : order a item = .eq := OrientedCmp.eq_symm first
  rw [TransCmp.eq_trans reversed second]
  rfl

variable {order} in
theorem isLE_total (a b : α) : ((order a b).isLE || (order b a).isLE) = true := by
  have swapped : order b a = (order a b).swap := OrientedCmp.eq_swap
  rw [swapped]
  cases order a b <;> rfl

theorem stablySorted_mergeSort (items : List α) :
    StablySorted order items (items.mergeSort fun a b => (order a b).isLE) where
  permuted := List.mergeSort_perm items _
  ordered := List.pairwise_mergeSort (fun _ _ _ => TransCmp.isLE_trans) isLE_total items
  steady item := by
    let equals := items.filter fun other => order item other = .eq
    -- items equal to one item are in order as they stand, and so they stand in the result
    have inOrder : equals.Pairwise fun a b => (order a b).isLE = true := by
      apply List.pairwise_of_forall_mem_list
      intro a among b amongToo
      have first : order item a = .eq := of_decide_eq_true (List.mem_filter.mp among).2
      have second : order item b = .eq := of_decide_eq_true (List.mem_filter.mp amongToo).2
      exact isLE_of_eq_both first second
    have kept : equals.Sublist (items.mergeSort fun a b => (order a b).isLE) :=
      List.sublist_mergeSort (fun _ _ _ => TransCmp.isLE_trans) isLE_total inOrder
        List.filter_sublist
    have within := kept.filter fun other => order item other = .eq
    rw [List.filter_filter] at within
    simp only [Bool.and_self] at within
    have size := (List.mergeSort_perm items fun a b => (order a b).isLE).filter
      fun other => order item other = .eq
    exact (within.eq_of_length size.length_eq.symm).symm

variable {order} in
theorem isLE_of_mem_ordered {first item : α} {rest : List α}
    (ordered : (first :: rest).Pairwise fun a b => (order a b).isLE = true)
    (among : item ∈ first :: rest) : (order first item).isLE = true := by
  rcases List.mem_cons.mp among with same | later
  · have self : order first first = .eq := ReflCmp.compare_self
    rw [same, self]
    rfl
  · exact List.rel_of_pairwise_cons ordered later

/-- Lists of the same items in order, with items that tie in the same succession, are the same. -/
theorem eq_of_ordered {one other : List α} (permuted : one.Perm other)
    (ordered : one.Pairwise fun a b => (order a b).isLE = true)
    (orderedToo : other.Pairwise fun a b => (order a b).isLE = true)
    (ties : ∀ item, (one.filter fun tied => order item tied = .eq) =
      other.filter fun tied => order item tied = .eq) : one = other := by
  induction one generalizing other with
  | nil => exact permuted.nil_eq
  | cons a rest ih =>
      cases other with
      | nil => exact absurd permuted.symm.nil_eq (List.cons_ne_nil a rest).symm
      | cons b others =>
          -- either head is least in both lists, so they tie, and each begins what ties with it
          have tie : order a b = .eq := OrientedCmp.isLE_antisymm
            (isLE_of_mem_ordered ordered (permuted.mem_iff.mpr List.mem_cons_self))
            (isLE_of_mem_ordered orderedToo (permuted.mem_iff.mp List.mem_cons_self))
          have self : order a a = .eq := ReflCmp.compare_self
          have heads := ties a
          rw [List.filter_cons_of_pos (by simpa using self),
            List.filter_cons_of_pos (by simpa using tie)] at heads
          obtain rfl : a = b := (List.cons.inj heads).1
          congr 1
          apply ih permuted.cons_inv ordered.of_cons orderedToo.of_cons
          intro item
          by_cases tied : order item a = .eq
          · simpa [List.filter_cons, tied] using ties item
          · simpa [List.filter_cons, tied] using ties item

omit [TransCmp order] in
variable {order} in
/-- Items in order are strictly so where no two of them tie. -/
theorem pairwise_lt_of_distinct {κ : Type} (keyOf : α → κ) {sorted : List α}
    (tied : ∀ a b, order a b = .eq → keyOf a = keyOf b)
    (ordered : sorted.Pairwise fun a b => (order a b).isLE = true)
    (distinct : (sorted.map keyOf).Nodup) : sorted.Pairwise fun a b => order a b = .lt := by
  apply (ordered.and (List.pairwise_map.mp distinct)).imp
  intro a b found
  obtain ⟨inOrder, different⟩ := found
  cases way : order a b with
  | lt => rfl
  | eq => exact absurd (tied a b way) different
  | gt =>
      rw [way] at inOrder
      exact absurd inOrder (by decide)

namespace StablySorted

variable {order} {items sorted other : List α}

theorem eq (stable : StablySorted order items sorted) (stableToo : StablySorted order items other) :
    sorted = other := by
  apply eq_of_ordered order (stable.permuted.trans stableToo.permuted.symm) stable.ordered
    stableToo.ordered
  intro item
  rw [stable.steady, stableToo.steady]

omit [TransCmp order] in
theorem filter (stable : StablySorted order items sorted) (test : α → Bool) :
    StablySorted order (items.filter test) (sorted.filter test) where
  permuted := stable.permuted.filter test
  ordered := stable.ordered.filter test
  steady item := by
    rw [List.filter_comm, stable.steady item, List.filter_comm]

end StablySorted

end

instance : TransCmp textOrder :=
  inferInstanceAs (TransCmp (compareOn Text.foldCase))

end AdaptiveView

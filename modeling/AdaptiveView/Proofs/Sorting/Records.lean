import AdaptiveView.Account
import AdaptiveView.Email
import AdaptiveView.Proofs.Sorting.Stable

/-!
# The order of the records

Keys of one kind are in a total order in which different keys may tie; keys of different kinds would tie
with each other and with no regard to that.  A field of accounts or of messages has keys of one kind
only, so each of their fields orders them, in either direction.  The sorted list is then the only one
there is: in order, and with the records that tie as they stood.
-/

set_option autoImplicit false

namespace AdaptiveView

open AdaptiveView.Calendar Std

/-! ## Keys -/

instance : TransOrd Instant :=
  inferInstanceAs (TransCmp <|
    compareLex (compareOn fun moment : Instant => moment.day.year) <|
    compareLex (compareOn fun moment => moment.day.month) <|
    compareLex (compareOn fun moment => moment.day.dayOfMonth) <|
    compareLex (compareOn Instant.second) (compareOn Instant.nano))

instance : TransCmp countOrder :=
  inferInstanceAs (TransCmp (compareOn fun count : Option Nat => count.getD 0))

instance : TransCmp dateOrder :=
  inferInstanceAs (TransCmp (compareOn fun date : Option Instant => date.getD .earliest))

namespace SortKey

inductive SameKind : SortKey → SortKey → Prop where
  | text (a b : String) : SameKind (.text a) (.text b)
  | count (a b : Option Nat) : SameKind (.count a) (.count b)
  | date (a b : Option Instant) : SameKind (.date a) (.date b)

theorem compare_swap (a b : SortKey) : a.compare b = (b.compare a).swap := by
  cases a <;> cases b <;> simp only [compare, Ordering.swap_eq]
  case text.text => exact OrientedCmp.eq_swap
  case count.count => exact OrientedCmp.eq_swap
  case date.date => exact OrientedCmp.eq_swap

theorem isLE_trans {a b c : SortKey} (alike : a.SameKind b) (alikeToo : b.SameKind c)
    (first : (a.compare b).isLE = true) (second : (b.compare c).isLE = true) :
    (a.compare c).isLE = true := by
  cases alike with
  | text =>
      cases alikeToo
      simp only [compare] at *
      exact TransCmp.isLE_trans first second
  | count =>
      cases alikeToo
      simp only [compare] at *
      exact TransCmp.isLE_trans first second
  | date =>
      cases alikeToo
      simp only [compare] at *
      exact TransCmp.isLE_trans first second

end SortKey

/-! ## Records -/

/-- All records have a key of the same kind in a field. -/
class UniformKeys (R : Type) [Record R] : Prop where
  sameKind : ∀ (field : Record.SortField R) (a b : R),
    (Record.sortKey a field).SameKind (Record.sortKey b field)

instance : UniformKeys Account where
  sameKind field _ _ := by
    cases field <;> constructor

instance : UniformKeys Email where
  sameKind field _ _ := by
    cases field <;> constructor

theorem SortDirection.orient_swap (direction : SortDirection) (order : Ordering) :
    direction.orient order.swap = (direction.orient order).swap := by
  cases direction <;> rfl

section
variable {R : Type} [Record R]

/-- Records that tie upwards tie in either direction. -/
theorem recordOrder_eq_iff {sort : SortState (Record.SortField R)} {a b : R} :
    recordOrder (.ascending sort.field) a b = .eq ↔ recordOrder sort a b = .eq := by
  obtain ⟨field, direction⟩ := sort
  cases direction with
  | ascending => rfl
  | descending => exact Ordering.swap_eq_eq.symm

variable [UniformKeys R]

instance (sort : SortState (Record.SortField R)) : TransCmp (recordOrder (R := R) sort) where
  eq_swap {a b} := by
    rw [recordOrder, SortKey.compare_swap, SortDirection.orient_swap]
    rfl
  isLE_trans {a b c} first second := by
    obtain ⟨field, direction⟩ := sort
    have alike := UniformKeys.sameKind (R := R) field
    cases direction with
    | ascending => exact SortKey.isLE_trans (alike a b) (alike b c) first second
    | descending =>
        -- Downwards each comparison is turned around, and so is the chain of the two.
        simp only [recordOrder, SortDirection.orient] at *
        rw [← SortKey.compare_swap] at *
        exact SortKey.isLE_trans (alike c b) (alike b a) second first

theorem stablySorted_sortedBy (sort : SortState (Record.SortField R)) (records : List R) :
    StablySorted (recordOrder sort) records (sortedBy sort records) :=
  stablySorted_mergeSort (recordOrder sort) records

theorem sortedBy_sortedBy (sort : SortState (Record.SortField R)) (records : List R) :
    sortedBy sort (sortedBy sort records) = sortedBy sort records := by
  have again := stablySorted_sortedBy sort (sortedBy sort records)
  have once := stablySorted_sortedBy sort records
  have whole : StablySorted (recordOrder sort) records (sortedBy sort (sortedBy sort records)) :=
    { permuted := again.permuted.trans once.permuted
      ordered := again.ordered
      steady := fun item => (again.steady item).trans (once.steady item) }
  exact whole.eq once

theorem ties_sortedBy (sort : SortState (Record.SortField R)) (records : List R) (record : R) :
    ((sortedBy sort records).filter fun other =>
        recordOrder (.ascending sort.field) record other = .eq) =
      records.filter fun other => recordOrder (.ascending sort.field) record other = .eq := by
  simp only [recordOrder_eq_iff]
  exact (stablySorted_sortedBy sort records).steady record

end

/-- A sort state orders records, and there is one way to sort them by it. -/
structure SortsOneWay {R : Type} [Record R] (sort : SortState (Record.SortField R)) : Prop where
  reversed : ∀ a b : R, recordOrder sort b a = (recordOrder sort a b).swap
  isLE_trans : ∀ a b c : R, (recordOrder sort a b).isLE = true →
    (recordOrder sort b c).isLE = true → (recordOrder sort a c).isLE = true
  tie_trans : ∀ a b c : R, recordOrder sort a b = .eq → recordOrder sort b c = .eq →
    recordOrder sort a c = .eq
  sorted : ∀ records : List R, StablySorted (recordOrder sort) records (sortedBy sort records)
  unique : ∀ records other : List R, StablySorted (recordOrder sort) records other →
    other = sortedBy sort records
  again : ∀ records : List R, sortedBy sort (sortedBy sort records) = sortedBy sort records
  /-- Whatever the direction, records with equal keys stay as they stood. -/
  ties : ∀ (records : List R) (record : R),
    ((sortedBy sort records).filter fun other =>
        recordOrder (.ascending sort.field) record other = .eq) =
      records.filter fun other => recordOrder (.ascending sort.field) record other = .eq

theorem sortsOneWay {R : Type} [Record R] [UniformKeys R]
    (sort : SortState (Record.SortField R)) : SortsOneWay sort where
  reversed _ _ := OrientedCmp.eq_swap
  isLE_trans _ _ _ := TransCmp.isLE_trans
  tie_trans _ _ _ := TransCmp.eq_trans
  sorted := stablySorted_sortedBy sort
  unique records _ stable := stable.eq (stablySorted_sortedBy sort records)
  again := sortedBy_sortedBy sort
  ties := ties_sortedBy sort

/-- Accounts and messages are sorted by any field in any direction, in one way. -/
theorem every_sort_has_one_result :
    (∀ sort : SortState AccountSortField, SortsOneWay (R := Account) sort) ∧
      ∀ sort : SortState EmailSortField, SortsOneWay (R := Email) sort :=
  ⟨sortsOneWay (R := Account), sortsOneWay (R := Email)⟩

end AdaptiveView

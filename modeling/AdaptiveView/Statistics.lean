import AdaptiveView.Record

/-!
# Statistics of a collection

Counts over all records, whatever the filters say.
-/

set_option autoImplicit false

namespace AdaptiveView

structure CategoryCount where
  key : String
  label : String
  count : Nat
  deriving DecidableEq

structure CollectionStats where
  total : Nat
  active : Nat
  disabled : Nat
  error : Nat
  /-- The largest category first, then by key. -/
  byCategory : List CategoryCount
  deriving DecidableEq

/-- One more of a value, which is new at the end if it has not come up yet. -/
def tally {C : Type} [DecidableEq C] (value : C) : List (C × Nat) → List (C × Nat)
  | [] => [(value, 1)]
  | (seen, count) :: rest =>
      if seen = value then (seen, count + 1) :: rest else (seen, count) :: tally value rest

/-- Larger counts first, equal ones by key. -/
def CategoryCount.compare (a b : CategoryCount) : Ordering :=
  (Ord.compare b.count a.count).then (Ord.compare a.key b.key)

variable {R : Type} [Record R]

def categoryCounts (records : List R) : List CategoryCount :=
  let counts := records.foldl (fun counts record => tally (Record.category record) counts) []
  let rows := counts.map fun (category, count) =>
    CategoryCount.mk (Classifier.key category) (Classifier.label category) count
  rows.mergeSort fun a b => (a.compare b).isLE

def CollectionStats.of (records : List R) : CollectionStats where
  total := records.length
  active := records.countP Record.isActive
  disabled := records.countP Record.isDisabled
  error := records.countP Record.isError
  byCategory := categoryCounts records

structure SelectionStats where
  total : Nat
  active : Nat
  disabled : Nat
  error : Nat
  deriving DecidableEq

def SelectionStats.of (records : List R) : SelectionStats where
  total := records.length
  active := records.countP Record.isActive
  disabled := records.countP Record.isDisabled
  error := records.countP Record.isError

end AdaptiveView

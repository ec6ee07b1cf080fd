import AdaptiveView.Record
import AdaptiveView.Text.Lowercase

/-!
# Sorting

Records are ordered by one field, upwards or downwards.  Texts that differ only in the case of their
letters are equal, a missing count is zero and a missing date is the earliest one.  Sorting is
stable, so equal records keep their order in either direction.
-/

set_option autoImplicit false

namespace AdaptiveView

open AdaptiveView.Calendar

inductive SortDirection where
  | ascending
  | descending
  deriving DecidableEq, Repr

def SortDirection.reversed : SortDirection → SortDirection
  | .ascending => .descending
  | .descending => .ascending

def SortDirection.orient (direction : SortDirection) (order : Ordering) : Ordering :=
  match direction with
  | .ascending => order
  | .descending => order.swap

structure SortState (F : Type) where
  field : F
  direction : SortDirection
  deriving DecidableEq

def SortState.ascending {F : Type} (field : F) : SortState F :=
  ⟨field, .ascending⟩

/-- The same field again turns the direction; another one starts upwards. -/
def SortState.choose {F : Type} [DecidableEq F] (sort : SortState F) (field : F) : SortState F :=
  if sort.field = field then { sort with direction := sort.direction.reversed }
  else .ascending field

/-- Order of texts without regard to case. -/
def textOrder (a b : String) : Ordering :=
  compare (Text.foldCase a) (Text.foldCase b)

def countOrder (a b : Option Nat) : Ordering :=
  compare (a.getD 0) (b.getD 0)

def dateOrder (a b : Option Instant) : Ordering :=
  compare (a.getD .earliest) (b.getD .earliest)

/-- Keys of different kinds never come from one field; they count as equal. -/
def SortKey.compare : SortKey → SortKey → Ordering
  | .text a, .text b => textOrder a b
  | .count a, .count b => countOrder a b
  | .date a, .date b => dateOrder a b
  | _, _ => .eq

variable {R : Type} [Record R]

def recordOrder (sort : SortState (Record.SortField R)) (a b : R) : Ordering :=
  sort.direction.orient ((Record.sortKey a sort.field).compare (Record.sortKey b sort.field))

/-- The records in order; equal ones stay as they stood. -/
def sortedBy (sort : SortState (Record.SortField R)) (records : List R) : List R :=
  records.mergeSort fun a b => (recordOrder sort a b).isLE

theorem sortedBy_perm (sort : SortState (Record.SortField R)) (records : List R) :
    (sortedBy sort records).Perm records :=
  List.mergeSort_perm records _

end AdaptiveView

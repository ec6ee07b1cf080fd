import AdaptiveView.Presentation
import AdaptiveView.Calendar.Instant

/-!
# Records

What the list view needs to know of the things it lists.  Filters, grouping, sorting and rows see a
record only through this.
-/

set_option autoImplicit false

namespace AdaptiveView

open AdaptiveView.Calendar

/-- A value by which records are filtered and grouped. -/
class Classifier (C : Type) where
  key : C → String
  label : C → String

/-- What a record is sorted by in one of its fields. -/
inductive SortKey where
  | text (s : String)
  | count (n : Option Nat)
  | date (t : Option Instant)

class Record (R : Type) where
  Id : Type
  Status : Type
  Category : Type
  Secondary : Type
  SortField : Type
  [idEq : DecidableEq Id]
  [statusEq : DecidableEq Status]
  [categoryEq : DecidableEq Category]
  [secondaryEq : DecidableEq Secondary]
  [sortFieldEq : DecidableEq SortField]
  [statusClassifier : Classifier Status]
  [categoryClassifier : Classifier Category]
  [secondaryClassifier : Classifier Secondary]
  /-- The title of the one group of an ungrouped collection. -/
  collectionLabel : String
  id : R → Id
  status : R → Status
  category : R → Category
  secondary : R → Secondary
  /-- The text that orders the members of a group. -/
  primaryText : R → String
  searchFields : R → List String
  sortKey : R → SortField → SortKey
  /-- The mail domain the record belongs to. -/
  domain? : R → Option String
  lastActivity? : R → Option Instant
  isError : R → Bool
  isActive : R → Bool
  /-- Switched off by the user. -/
  isDisabled : R → Bool
  /-- The height of a row before it has been measured. -/
  rowHeight : Density → Nat

attribute [reducible, instance] Record.idEq Record.statusEq Record.categoryEq Record.secondaryEq
  Record.sortFieldEq Record.statusClassifier Record.categoryClassifier Record.secondaryClassifier

end AdaptiveView

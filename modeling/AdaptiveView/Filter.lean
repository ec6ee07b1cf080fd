import AdaptiveView.Record
import AdaptiveView.Text.Blank
import AdaptiveView.Text.Lowercase
import AdaptiveView.Text.Occurs

/-!
# Filters

What the user typed or picked to narrow a collection.  All filters must accept a record.  The search
text is taken without blanks around it and in lower case, and must stand in one of the record's
search fields.
-/

set_option autoImplicit false

namespace AdaptiveView

/-- A filter on one classification: everything, or one value only. -/
inductive FieldFilter (T : Type) where
  | all
  | only (wanted : T)
  deriving DecidableEq

def FieldFilter.accepts {T : Type} [DecidableEq T] : FieldFilter T → T → Bool
  | .all, _ => true
  | .only wanted, value => wanted == value

def FieldFilter.isActive {T : Type} : FieldFilter T → Bool
  | .all => false
  | .only _ => true

structure Filters (R : Type) [Record R] where
  searchText : String
  status : FieldFilter (Record.Status R)
  category : FieldFilter (Record.Category R)
  secondary : FieldFilter (Record.Secondary R)

namespace Filters

variable {R : Type} [Record R]

def none : Filters R :=
  ⟨"", .all, .all, .all⟩

instance : Inhabited (Filters R) := ⟨none⟩

instance : DecidableEq (Filters R) := fun a b =>
  decidable_of_iff
    (a.searchText = b.searchText ∧ a.status = b.status ∧ a.category = b.category ∧
      a.secondary = b.secondary)
    (by cases a; cases b; simp)

/-- How many of the four filters narrow the collection. -/
def activeCount (filters : Filters R) : Nat :=
  [!Text.isBlankText filters.searchText, filters.status.isActive, filters.category.isActive,
    filters.secondary.isActive].countP id

def hasActive (filters : Filters R) : Bool :=
  0 < filters.activeCount

/-- The search text as it is looked for. -/
def query (filters : Filters R) : String :=
  Text.lowercase (Text.trim filters.searchText)

/-- Whether a search field of the record holds the query; an empty query finds everything. -/
def finds (query : String) (record : R) : Bool :=
  query.isEmpty ||
    (Record.searchFields record).any fun field => Text.contains (Text.lowercase field) query

def accepts (filters : Filters R) (record : R) : Bool :=
  finds filters.query record && filters.status.accepts (Record.status record) &&
    filters.category.accepts (Record.category record) &&
    filters.secondary.accepts (Record.secondary record)

/-- The records that pass, in their order. -/
def apply (filters : Filters R) (records : List R) : List R :=
  records.filter filters.accepts

end Filters

end AdaptiveView

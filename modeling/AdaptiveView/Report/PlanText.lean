import AdaptiveView.Report.Rows

/-!
# Plans as text

Two lines about the whole screen, and then the body of the plan.  Every line ends with a line end.
-/

set_option autoImplicit false

namespace AdaptiveView

/-- Lengths that can be shown in whole pixels. -/
class PixelText (α : Type) where
  pixels : α → String

instance : PixelText Float := ⟨Decimal.fixedText 0⟩

def autoText (isAuto : Bool) : String :=
  if isAuto then "auto" else "pinned"

def EmptyReason.text : EmptyReason → String
  | .loading => "Loading..."
  | .noRecords => "Nothing here yet"
  | .noMatches => "No results match the current filters"

/-- What is shown, and how. -/
def Plan.headLine {R α : Type} (plan : Plan R α) : String :=
  natText plan.filteredCount ++ " of " ++ natText plan.totalCount ++ " shown | mode " ++
    plan.viewMode.key ++ " (" ++ autoText plan.viewModeAuto ++ ", suggests " ++
    plan.recommendedViewMode.key ++ ") | density " ++ plan.density.key ++ " (" ++
    autoText plan.densityAuto ++ ") | " ++ natText plan.selection.selected ++ " selected"

/-- What the collection holds. -/
def CollectionStats.line (stats : CollectionStats) : String :=
  natText stats.active ++ " active, " ++ natText stats.disabled ++ " disabled, " ++
    natText stats.error ++ " with errors | " ++
    ", ".intercalate (stats.byCategory.map fun row => row.label ++ " " ++ natText row.count)

def GroupSection.titleLine {R : Type} (group : GroupSection R) : String :=
  let errors :=
    if 0 < group.errorCount then ", " ++ natText group.errorCount ++ " with errors" else ""
  "== " ++ group.label ++ " (" ++ natText group.rows.length ++ errors ++ ") =="

/-- The items of the page and the buttons, the one of the page in brackets. -/
def pageLine (window : PageWindow) (buttons : List Nat) : String :=
  let range := match window.shown? with
    | some (first, last) => natText first ++ "-" ++ natText last
    | none => "0"
  let button := fun (page : Nat) =>
    if page = window.pageIndex then "[" ++ natText page ++ "]" else natText page
  "showing " ++ range ++ " of " ++ natText window.totalItems ++ " | pages " ++
    " ".intercalate (buttons.map button)

section
variable {R α : Type} [RowText R]

/-- The lines of rows, moved to the right by `indent`. -/
def indentedRows (indent : String) (rows : List (Row R)) : List String :=
  rows.flatMap fun row => row.lines.map (indent ++ ·)

def GroupSection.lines (group : GroupSection R) : List String :=
  group.titleLine :: indentedRows "  " group.rows

def PlanBody.lines [PixelText α] : PlanBody R α → List String
  | .empty reason => [reason.text]
  | .flat rows => indentedRows "" rows
  | .virtualized range rows =>
      ("items " ++ natText range.first ++ ".." ++ natText range.last ++ " of " ++
        PixelText.pixels range.total ++ "px") :: indentedRows "" rows
  | .grouped _ groups => groups.flatMap GroupSection.lines
  | .paginated window buttons rows => indentedRows "" rows ++ [pageLine window buttons]

def Plan.lines [PixelText α] (plan : Plan R α) : List String :=
  plan.headLine :: plan.stats.line :: plan.body.lines

def Plan.text [PixelText α] (plan : Plan R α) : String :=
  String.join (plan.lines.map (· ++ "\n"))

end

end AdaptiveView

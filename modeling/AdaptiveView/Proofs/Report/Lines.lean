import AdaptiveView.Proofs.Grouping.Domains
import AdaptiveView.Proofs.Report.Breaks
import AdaptiveView.Proofs.Screen.Layouts

/-!
# The lines of a plan

A plan is written in two lines about the screen, the lines of its rows, and one more for a reason, for
each group, and for the range of a part of the rows.  Texts of the records and of their groups are
written as they are, so that the report has just these lines exactly if no such text holds a line break.
Each break makes one more, which nothing tells from a row or from the title of a group.
-/

set_option autoImplicit false

namespace AdaptiveView

/-! ## Texts from outside -/

/-- The texts of an account that its row shows as they are. -/
def Account.shown (account : Account) : Density → List String
  | .minimal | .compact => [account.email]
  | .detailed => account.email :: nonEmpty account.lastSyncError

/-- The texts of a message that its row shows as they are. -/
def Email.shown (email : Email) : Density → List String
  | .minimal => [email.subject]
  | .compact => [email.sender, email.subject]
  | .detailed => [email.subject, email.sender, email.fromAddress] ++ nonEmpty email.snippet

/-- Records whose rows have the line breaks of certain texts of theirs, and no others. -/
class ShowsTexts (R : Type) [RowText R] where
  shown : R → Density → List String
  breaks_lines : ∀ (record : R) (density : Density),
    ((RowText.lines record density).map breaks).sum = ((shown record density).map breaks).sum
  /-- Only a detailed row has more lines than one. -/
  length_lines : ∀ (record : R) {density : Density}, density ≠ .detailed →
    (RowText.lines record density).length = 1

@[simp]
theorem AccountStatus.breaks_key (status : AccountStatus) : breaks status.key = 0 := by
  cases status <;> decide

@[simp]
theorem Provider.breaks_label (provider : Provider) : breaks provider.label = 0 := by
  cases provider <;> decide

@[simp]
theorem SyncStatus.breaks_label (status : SyncStatus) : breaks status.label = 0 := by
  cases status <;> decide

@[simp]
theorem Email.breaks_marks (email : Email) : breaks email.marks = 0 := by
  unfold marks
  cases email.isRead <;> cases email.isStarred <;> decide

@[simp]
theorem Email.breaks_clip (email : Email) : breaks email.clip = 0 := by
  unfold clip
  cases email.hasAttachments <;> decide

theorem sum_breaks_headed (heading : String) (solid : breaks heading = 0) (texts : List String) :
    ((texts.map (heading ++ ·)).map breaks).sum = (texts.map breaks).sum := by
  rw [List.map_map]
  congr 1
  apply List.map_congr_left
  intro text _
  rw [Function.comp_apply, breaks_append, solid, Nat.zero_add]

instance : ShowsTexts Account where
  shown := Account.shown
  breaks_lines account density := by
    change ((account.lines density).map breaks).sum = _
    cases density with
    | minimal =>
        simp (disch := decide) [Account.lines, Account.shown, breaks_solid]
    | compact =>
        simp (disch := decide) [Account.lines, Account.shown, breaks_solid]
    | detailed =>
        have errors := sum_breaks_headed "error: " (by decide)
          (nonEmpty account.lastSyncError)
        simp (disch := decide) [Account.lines, Account.shown, breaks_solid, ← errors]
  length_lines account density brief := by
    change (account.lines density).length = 1
    cases density with
    | detailed => exact absurd rfl brief
    | compact => rfl
    | minimal => rfl

instance : ShowsTexts Email where
  shown := Email.shown
  breaks_lines email density := by
    change ((email.lines density).map breaks).sum = _
    cases density with
    | minimal => simp [Email.lines, Email.shown]
    | compact =>
        simp (disch := decide) [Email.lines, Email.shown, breaks_solid]
    | detailed =>
        simp (disch := decide) [Email.lines, Email.shown, breaks_solid, Nat.add_assoc]
  length_lines email density brief := by
    change (email.lines density).length = 1
    cases density with
    | detailed => exact absurd rfl brief
    | compact => rfl
    | minimal => rfl

/-! ## Rows -/

section
variable {R : Type} [RowText R]

theorem Row.length_lines (row : Row R) :
    row.lines.length = (RowText.lines row.record row.density).length := by
  unfold Row.lines
  cases RowText.lines row.record row.density with
  | nil => rfl
  | cons first rest => rw [List.length_cons, List.length_map, List.length_cons]

/-- The marks of a row and the space in front of its further lines hold no breaks. -/
theorem Row.sum_breaks_lines (row : Row R) :
    (row.lines.map breaks).sum =
      ((RowText.lines row.record row.density).map breaks).sum := by
  unfold Row.lines
  cases RowText.lines row.record row.density with
  | nil => rfl
  | cons first rest =>
      have mark : breaks (if row.selected then "[x] " else "[ ] ") = 0 := by
        cases row.selected <;> decide
      have busy : breaks (if row.busy then " …" else "") = 0 := by
        cases row.busy <;> decide
      have further := sum_breaks_headed "    " (by decide) rest
      simp only [List.map_cons, List.sum_cons, further, breaks_append, mark, busy, Nat.zero_add,
        Nat.add_zero]

variable [ShowsTexts R]

/-- The texts that a row shows as they are. -/
def Row.shown (row : Row R) : List String :=
  ShowsTexts.shown row.record row.density

theorem Row.sum_breaks (row : Row R) :
    (row.lines.map breaks).sum = (row.shown.map breaks).sum :=
  row.sum_breaks_lines.trans (ShowsTexts.breaks_lines row.record row.density)

theorem Row.length_lines_of_brief {row : Row R} (brief : row.density ≠ .detailed) :
    row.lines.length = 1 :=
  row.length_lines.trans (ShowsTexts.length_lines row.record brief)

omit [ShowsTexts R] in
theorem length_indentedRows (indent : String) (rows : List (Row R)) :
    (indentedRows indent rows).length = (rows.map fun row => row.lines.length).sum := by
  simp only [indentedRows, List.length_flatMap, List.length_map]

theorem sum_breaks_indentedRows (indent : String) (solid : breaks indent = 0)
    (rows : List (Row R)) :
    ((indentedRows indent rows).map breaks).sum =
      ((rows.flatMap Row.shown).map breaks).sum := by
  induction rows with
  | nil => rfl
  | cons row rest ih =>
      have headed := sum_breaks_headed indent solid row.lines
      simp only [indentedRows] at ih
      simp only [indentedRows, List.flatMap_cons, List.map_append, List.sum_append, headed,
        row.sum_breaks, ih]

/-! ## Bodies -/

/-- The lines of a body that are not of rows. -/
def PlanBody.ownLines {α : Type} : PlanBody R α → Nat
  | .flat _ => 0
  | .empty _ | .virtualized _ _ | .paginated _ _ _ => 1
  | .grouped _ groups => groups.length

/-- Rows of groups stand to the right of the titles. -/
def PlanBody.indent {α : Type} : PlanBody R α → String
  | .grouped _ _ => "  "
  | .empty _ | .flat _ | .virtualized _ _ | .paginated _ _ _ => ""

/-- The texts of records and of groups that a body shows as they are. -/
def PlanBody.shown {α : Type} : PlanBody R α → List String
  | .grouped _ groups => groups.flatMap fun group => group.label :: group.rows.flatMap Row.shown
  | .empty _ => []
  | .flat rows | .virtualized _ rows | .paginated _ _ rows => rows.flatMap Row.shown

@[simp]
theorem EmptyReason.breaks_text (reason : EmptyReason) : breaks reason.text = 0 := by
  cases reason <;> decide

omit [RowText R] [ShowsTexts R] in
theorem GroupSection.breaks_titleLine (group : GroupSection R) :
    breaks group.titleLine = breaks group.label := by
  unfold titleLine
  dsimp only
  split <;> simp (disch := decide) [breaks_solid]

theorem sum_breaks_of_forall {texts : List String} (solid : ∀ text ∈ texts, breaks text = 0) :
    (texts.map breaks).sum = 0 :=
  List.sum_eq_zero_iff.mpr (List.forall_mem_map.mpr solid)

@[simp]
theorem breaks_pageLine (window : PageWindow) (buttons : List Nat) :
    breaks (pageLine window buttons) = 0 := by
  have buttonTexts : ((buttons.map fun page =>
      if page = window.pageIndex then "[" ++ natText page ++ "]" else natText page).map
        breaks).sum = 0 := by
    apply sum_breaks_of_forall
    rw [List.forall_mem_map]
    intro page _
    split <;> simp (disch := decide) [breaks_solid]
  unfold pageLine
  cases window.shown? <;>
    simp (disch := decide) only [breaks_append, breaks_natText, breaks_intercalate, breaks_solid,
      buttonTexts]

omit [ShowsTexts R] in
theorem length_body_lines (body : PlanBody R Float) :
    body.lines.length = body.ownLines + (body.rows.map fun row => row.lines.length).sum := by
  cases body with
  | empty reason => rfl
  | flat rows =>
      simp only [PlanBody.lines, PlanBody.ownLines, PlanBody.rows, length_indentedRows,
        Nat.zero_add]
  | virtualized range rows =>
      simp only [PlanBody.lines, PlanBody.ownLines, PlanBody.rows, length_indentedRows,
        List.length_cons, Nat.add_comm]
  | grouped groupBy groups =>
      simp only [PlanBody.lines, PlanBody.ownLines, PlanBody.rows]
      induction groups with
      | nil => rfl
      | cons group rest ih =>
          simp only [List.flatMap_cons, List.length_append, List.map_append, List.sum_append,
            GroupSection.lines, List.length_cons, length_indentedRows, ih]
          omega
  | paginated window buttons rows =>
      simp only [PlanBody.lines, PlanBody.ownLines, PlanBody.rows, length_indentedRows,
        List.length_append, List.length_singleton, Nat.add_comm]

omit [ShowsTexts R] in
/-- The lines of the rows stand in the order of the rows. -/
theorem sublist_body_lines (body : PlanBody R Float) :
    (indentedRows body.indent body.rows).Sublist body.lines := by
  cases body with
  | empty reason => exact List.nil_sublist _
  | flat rows => exact List.Sublist.refl _
  | virtualized range rows => exact List.sublist_cons_self _ _
  | grouped groupBy groups =>
      simp only [PlanBody.lines, PlanBody.indent, PlanBody.rows]
      induction groups with
      | nil => exact List.Sublist.refl _
      | cons group rest ih =>
          rw [List.flatMap_cons, List.flatMap_cons, indentedRows, List.flatMap_append]
          exact (List.sublist_cons_self _ _).append ih
  | paginated window buttons rows => exact List.sublist_append_left _ _

theorem sum_breaks_body (body : PlanBody R Float) :
    (body.lines.map breaks).sum = (body.shown.map breaks).sum := by
  cases body with
  | empty reason =>
      rw [PlanBody.lines, List.map_singleton, List.sum_singleton, reason.breaks_text]
      rfl
  | flat rows => exact sum_breaks_indentedRows "" (by decide) rows
  | virtualized range rows =>
      have pixels : breaks (PixelText.pixels range.total) = 0 := breaks_fixedText 0 range.total
      simp (disch := decide) only [PlanBody.lines, PlanBody.shown, List.map_cons, List.sum_cons,
        breaks_append, breaks_natText, breaks_solid, pixels, Nat.zero_add,
        sum_breaks_indentedRows]
  | grouped groupBy groups =>
      simp only [PlanBody.lines, PlanBody.shown]
      induction groups with
      | nil => rfl
      | cons group rest ih =>
          have rows := sum_breaks_indentedRows "  " (by decide) group.rows
          simp only [List.flatMap_cons, List.map_append, List.sum_append, GroupSection.lines,
            List.map_cons, List.sum_cons, group.breaks_titleLine, rows, ih]
  | paginated window buttons rows =>
      simp (disch := decide) only [PlanBody.lines, PlanBody.shown, List.map_append,
        List.sum_append, List.map_singleton, List.sum_singleton, breaks_pageLine, Nat.add_zero,
        sum_breaks_indentedRows]

/-! ## Plans -/

/-- All texts that a plan shows as they are. -/
def Plan.shown {α : Type} (plan : Plan R α) : List String :=
  plan.stats.byCategory.map CategoryCount.label ++ plan.body.shown

@[simp]
theorem ViewMode.breaks_key (mode : ViewMode) : breaks mode.key = 0 := by
  cases mode <;> decide

@[simp]
theorem Density.breaks_key (density : Density) : breaks density.key = 0 := by
  cases density <;> decide

@[simp]
theorem breaks_autoText (isAuto : Bool) : breaks (autoText isAuto) = 0 := by
  cases isAuto <;> decide

omit [RowText R] [ShowsTexts R] in
theorem Plan.breaks_headLine {α : Type} (plan : Plan R α) : breaks plan.headLine = 0 := by
  unfold headLine
  simp (disch := decide) [breaks_solid]

theorem CollectionStats.breaks_line (stats : CollectionStats) :
    breaks stats.line = ((stats.byCategory.map CategoryCount.label).map breaks).sum := by
  have counted : ((stats.byCategory.map fun row => row.label ++ " " ++ natText row.count).map
      breaks).sum = ((stats.byCategory.map CategoryCount.label).map breaks).sum := by
    rw [List.map_map, List.map_map]
    congr 1
    apply List.map_congr_left
    intro row _
    simp (disch := decide) [breaks_solid]
  unfold line
  simp (disch := decide) only [breaks_append, breaks_natText, breaks_intercalate, breaks_solid,
    counted, Nat.zero_add]

theorem Plan.sum_breaks (plan : Plan R Float) :
    (plan.lines.map breaks).sum = (plan.shown.map breaks).sum := by
  rw [Plan.lines, List.map_cons, List.sum_cons, List.map_cons, List.sum_cons,
    plan.breaks_headLine, CollectionStats.breaks_line, sum_breaks_body, Nat.zero_add, Plan.shown,
    List.map_append, List.sum_append]

theorem sum_breaks_eq_zero_iff (texts : List String) :
    (texts.map breaks).sum = 0 ↔ ∀ text ∈ texts, '\n' ∉ text.toList := by
  simp only [List.sum_eq_zero_iff, List.forall_mem_map, breaks, List.count_eq_zero]

/-- A plan is written in certain lines, and read back in as many more as its texts hold breaks. -/
structure Plan.WrittenInLines (plan : Plan R Float) : Prop where
  composed : plan.lines.length =
    2 + plan.body.ownLines + (plan.body.rows.map fun row => row.lines.length).sum
  inOrder : (indentedRows plan.body.indent plan.body.rows).Sublist plan.lines
  brief : ∀ row ∈ plan.body.rows, row.density ≠ .detailed → row.lines.length = 1
  counted : (textLines plan.text).length = plan.lines.length + (plan.shown.map breaks).sum
  exact_iff : textLines plan.text = plan.lines ↔ ∀ text ∈ plan.shown, '\n' ∉ text.toList
  row_iff : ∀ row ∈ plan.body.rows,
    textLines (closed row.lines) = row.lines ↔ ∀ text ∈ row.shown, '\n' ∉ text.toList

theorem Plan.writtenInLines (plan : Plan R Float) : plan.WrittenInLines where
  composed := by
    rw [Plan.lines, List.length_cons, List.length_cons, length_body_lines]
    omega
  inOrder := ((sublist_body_lines plan.body).cons _).cons _
  brief _ _ := Row.length_lines_of_brief
  counted := (length_textLines_closed plan.lines).trans (by rw [plan.sum_breaks])
  exact_iff := (textLines_closed_iff plan.lines).trans
    (by rw [plan.sum_breaks, sum_breaks_eq_zero_iff])
  row_iff row _ := (textLines_closed_iff row.lines).trans
    (by rw [row.sum_breaks, sum_breaks_eq_zero_iff])

end

/-- The report of any plan has its lines, a row that is not detailed one of them, exactly if no text
that is shown holds a line break. -/
theorem report_has_its_lines_iff (accounts : Plan Account Float) (messages : Plan Email Float) :
    accounts.WrittenInLines ∧ messages.WrittenInLines :=
  ⟨accounts.writtenInLines, messages.writtenInLines⟩

/-! ## A title of a group that is none -/

/-- The subject goes on after a line break with what could be the title of a group. -/
def titledMessage : Email :=
  { messageFrom 1 "billing@shop.example" with subject := "Invoice\n== Inbox (0) ==" }

/-- The one row of a screen, in the least density. -/
def titledPlan : Plan Email Float :=
  (Screen.updateAll (Screen.ofListing Email .standard MemoryStore.new).1 MemoryStore.new
    [.collectionUpdated [titledMessage], .selectDensity .minimal]).screen.plan .earliest

/-- One row without details is two lines of the report, and the second one reads like a title. -/
theorem subject_adds_title :
    titledPlan.viewMode = .flat ∧
      titledPlan.body.rows.map (fun row => (row.density, row.lines)) =
        [(.minimal, ["[ ] ● Invoice\n== Inbox (0) =="])] ∧
      (textLines titledPlan.text).drop 2 = ["[ ] ● Invoice", "== Inbox (0) =="] := by
  refine ⟨by decide, ?_, ?_⟩
  · decide +kernel
  · decide +kernel

end AdaptiveView

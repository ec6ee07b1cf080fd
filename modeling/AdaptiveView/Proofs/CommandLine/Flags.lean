import AdaptiveView.CommandLine.Run
import AdaptiveView.Proofs.Record.Documents
import AdaptiveView.Proofs.Screen.Arranged
import AdaptiveView.Proofs.Settings.Resolved

/-!
# What options mean

Options become messages, and some messages undo what others did: a reset and an automatic choice undo a
pin, a search and a page size go back to the first page, and what is selected depends on the search.
They are sent in an order in which this does not matter, so each option decides one part of the screen
that is shown, whatever the other options are.
-/

set_option autoImplicit false

namespace AdaptiveView

open AdaptiveView.Calendar WorkingStore Selector

namespace CommandLine

/-! ## The records of a screen -/

@[reducible]
def ScreenName.Records : ScreenName → Type
  | .accounts => Account
  | .emails => Email

instance (screen : ScreenName) : Record screen.Records :=
  match screen with
  | .accounts => inferInstanceAs (Record Account)
  | .emails => inferInstanceAs (Record Email)

instance (screen : ScreenName) : Listing screen.Records :=
  match screen with
  | .accounts => inferInstanceAs (Listing Account)
  | .emails => inferInstanceAs (Listing Email)

instance (screen : ScreenName) : RowText screen.Records :=
  match screen with
  | .accounts => inferInstanceAs (RowText Account)
  | .emails => inferInstanceAs (RowText Email)

theorem display_eq {σ : Type} [PreferenceStore σ] (arguments : Arguments) (config : Settings Float)
    (files : Files) (now : Instant) (store : σ) :
    display arguments config files now store =
      displayRecords arguments arguments.screen.Records config files now store := by
  unfold display
  cases arguments with
  | mk screen =>
      cases screen <;> rfl

/-! ## What each option decides -/

namespace Arguments

/-- What becomes of a loaded selector.  A choice that is named is pinned; otherwise a reset and an
automatic choice both give the recommendation. -/
def choice {P V : Type} [Recommender P V] [DecidableEq V] (arguments : Arguments)
    (named : Option V) (loaded : Selector P V) : Selector P V :=
  match named with
  | some value => loaded.moved (.pin value)
  | none => if arguments.reset || arguments.auto then loaded.moved .release else loaded

/-- The screen shows the records as the options say, over a store whose version has been checked. -/
structure Describes {R : Type} [Record R] [Listing R] {α σ : Type} [Coordinate α]
    [PreferenceStore σ] (arguments : Arguments) (config : Settings α) (records : List R)
    (busy : List (Record.Id R)) (checked : σ) (screen : Screen R α) : Prop where
  name : screen.name = Listing.screenName R
  configured : screen.config = config
  collection : screen.collection = records
  loaded : screen.loaded = true
  busy : screen.busy = busy
  sort : screen.sort = Listing.initialSort
  filters : screen.filters = { Filters.none with searchText := arguments.search.getD "" }
  viewMode : screen.viewMode = arguments.choice arguments.mode
    (ofStore config.viewMode checked (Listing.screenName R) records.length).1
  density : screen.density = arguments.choice arguments.density
    (ofStore config.density checked (Listing.screenName R) records.length).1
  pageSize : screen.pager.pageSize = (arguments.pageSize.map (max · 1)).getD config.pageSize
  page : screen.pager.pageIndex = arguments.page.elim 1 fun page =>
    clampNat page 1 (max (pagesFor screen.pager.pageSize screen.matching.length) 1)
  totalItems : screen.pager.totalItems = screen.matching.length
  groupBy : screen.groupBy = arguments.groupBy.getD .status
  selection : ∀ id, id ∈ screen.selection.ids ↔
    arguments.selectAll = true ∧ id ∈ screen.matchingIds
  viewport : screen.viewport =
    (Viewport.new (Screen.estimateFor R screen.density.value) config.containerHeight
      config.overscan).restarted screen.matching.length

variable {R : Type} [Record R] [Listing R] {α : Type} [Coordinate α] (arguments : Arguments)
  (config : Settings α) (records : List R) (busy : List (Record.Id R))

/-- The arrangement that the options ask for. -/
def arrangement (viewMode : Selector ViewModePolicy ViewMode)
    (density : Selector DensityPolicy Density) (pageSize : Nat) : Arrangement where
  viewMode := arguments.choice arguments.mode viewMode
  density := arguments.choice arguments.density density
  groupBy := arguments.groupBy.getD .status
  searchText := arguments.search.getD ""
  pageSize := arguments.pageSize.getD pageSize
  page := arguments.page.getD 1
  selectAll := arguments.selectAll

theorem describes_arrangement {σ : Type} [PreferenceStore σ] (checked : σ)
    (sized : 1 ≤ config.pageSize) :
    arguments.Describes config records busy checked
      ((arguments.arrangement
        (ofStore config.viewMode checked (Listing.screenName R) records.length).1
        (ofStore config.density checked (Listing.screenName R) records.length).1
        config.pageSize).screen config records busy) where
  name := rfl
  configured := rfl
  collection := rfl
  loaded := rfl
  busy := rfl
  sort := rfl
  filters := rfl
  viewMode := rfl
  density := rfl
  pageSize := by
    simp only [Arrangement.screen, arrangement, Pager.goTo]
    cases arguments.pageSize with
    | none => exact Nat.max_eq_left sized
    | some pageSize => rfl
  page := by
    simp only [Arrangement.screen, arrangement, Screen.matching]
    cases arguments.page with
    | none => exact congrArg Pager.pageIndex (Pager.goTo_one_of_first _ _)
    | some page =>
        simp only [Pager.goTo, Pager.window, PageWindow.of_eq, Option.elim, Option.getD,
          Nat.max_assoc, Nat.max_self]
  totalItems := rfl
  groupBy := rfl
  selection := by
    intro id
    exact Arrangement.mem_selection _ config records busy
  viewport := rfl

/-! ## The order of the messages -/

section
variable {σ : Type} [PreferenceStore σ] [WorkingStore σ] [SignedCoordinate α]

theorem leads_auto (arrangement : Arrangement) :
    (arrangement.screen config records busy).Leads σ [.autoViewMode, .autoDensity]
      ({ arrangement with
        viewMode := arrangement.viewMode.moved .release
        density := arrangement.density.moved .release }.screen config records busy) :=
  (arrangement.leads_autoViewMode config records busy).append
    (Arrangement.leads_autoDensity _ config records busy)

/-- A choice that is named hides what a reset and an automatic choice would make of the selector. -/
theorem pinned_choice {P V : Type} [Recommender P V] [DecidableEq V] (loaded : Selector P V)
    (value : V) :
    (arguments.choice none loaded).moved (.pin value) = arguments.choice (some value) loaded := by
  unfold choice
  dsimp only
  split <;> rfl

theorem leads_unpinned (mode row : StoredChoice) :
    let viewMode := restored config.viewMode (Listing.screenName R) records.length mode
    let density := restored config.density (Listing.screenName R) records.length row
    ((Arrangement.opening viewMode density config.pageSize).screen config records busy).Leads σ
      ((if arguments.reset then [.resetPreferences] else []) ++
        (if arguments.auto then [.autoViewMode, .autoDensity] else []))
      ((Arrangement.opening (arguments.choice none viewMode) (arguments.choice none density)
        config.pageSize).screen config records busy) := by
  intro viewMode density
  have reset := Arrangement.leads_resetPreferences (σ := σ)
    (.opening viewMode density config.pageSize) config records busy rfl
  unfold choice
  cases arguments.reset with
  | false =>
      cases arguments.auto with
      | false => exact .nil _
      | true => exact leads_auto config records busy _
  | true =>
      cases arguments.auto with
      | false => exact reset
      | true => exact reset.append (leads_auto config records busy _)

theorem leads_pins (viewMode : Selector ViewModePolicy ViewMode)
    (density : Selector DensityPolicy Density) :
    ((Arrangement.opening (arguments.choice none viewMode) (arguments.choice none density)
        config.pageSize).screen config records busy).Leads σ
      (arguments.mode.toList.map .selectViewMode ++ arguments.density.toList.map .selectDensity)
      ((Arrangement.opening (arguments.choice arguments.mode viewMode)
        (arguments.choice arguments.density density) config.pageSize).screen
          config records busy) := by
  let pinned (mode : Option ViewMode) (row : Option Density) : Arrangement :=
    .opening (arguments.choice mode viewMode) (arguments.choice row density) config.pageSize
  have toMode := Screen.Leads.given (σ := σ)
    (fun given => (pinned given none).screen config records busy)
    (by
      intro mode
      simp only [pinned, ← arguments.pinned_choice viewMode mode]
      exact Arrangement.leads_selectViewMode _ config records busy mode)
    arguments.mode
  have toDensity := Screen.Leads.given (σ := σ)
    (fun given => (pinned arguments.mode given).screen config records busy)
    (by
      intro row
      simp only [pinned, ← arguments.pinned_choice density row]
      exact Arrangement.leads_selectDensity _ config records busy row)
    arguments.density
  exact toMode.append toDensity

/-- The search comes before the page size, and both before the page, since each goes back to the first
page; what is selected comes last. -/
theorem leads_list (viewMode : Selector ViewModePolicy ViewMode)
    (density : Selector DensityPolicy Density) :
    let opened := Arrangement.opening viewMode density config.pageSize
    let final := { opened with
      groupBy := arguments.groupBy.getD .status
      searchText := arguments.search.getD ""
      pageSize := arguments.pageSize.getD config.pageSize
      page := arguments.page.getD 1
      selectAll := arguments.selectAll }
    (opened.screen config records busy).Leads σ
      (arguments.groupBy.toList.map .groupBy ++ arguments.search.toList.map .searchChanged ++
        arguments.pageSize.toList.map .setPageSize ++ arguments.page.toList.map .setPage ++
        (if arguments.selectAll then [.selectAllVisible] else []))
      (final.screen config records busy) := by
  intro opened final
  let grouped (groupBy : Option GroupBy) := { opened with groupBy := groupBy.getD .status }
  let searched (text : Option String) :=
    { grouped arguments.groupBy with searchText := text.getD "" }
  let sized (pageSize : Option Nat) :=
    { searched arguments.search with pageSize := pageSize.getD config.pageSize }
  let turned (page : Option Nat) := { sized arguments.pageSize with page := page.getD 1 }
  let marked (selectAll : Bool) := { turned arguments.page with selectAll }
  have toGrouped := Screen.Leads.given (σ := σ)
    (fun given => (grouped given).screen config records busy)
    (opened.leads_groupBy config records busy) arguments.groupBy
  have toSearched := Screen.Leads.given (σ := σ)
    (fun given => (searched given).screen config records busy)
    (fun text => (searched none).leads_searchChanged config records busy text rfl rfl)
    arguments.search
  have toSized := Screen.Leads.given (σ := σ)
    (fun given => (sized given).screen config records busy)
    (fun pageSize => (sized none).leads_setPageSize config records busy pageSize rfl)
    arguments.pageSize
  have toTurned := Screen.Leads.given (σ := σ)
    (fun given => (turned given).screen config records busy)
    ((turned none).leads_setPage config records busy) arguments.page
  have toMarked := Screen.Leads.raised (σ := σ)
    (fun flag => (marked flag).screen config records busy)
    ((marked false).leads_selectAllVisible config records busy rfl) arguments.selectAll
  exact (((toGrouped.append toSearched).append toSized).append toTurned).append toMarked

theorem leads_messages (mode row : StoredChoice) :
    let viewMode := restored config.viewMode (Listing.screenName R) records.length mode
    let density := restored config.density (Listing.screenName R) records.length row
    ((Arrangement.opening viewMode density config.pageSize).screen config records busy).Leads σ
      (arguments.messages R α)
      ((arguments.arrangement viewMode density config.pageSize).screen config records busy) := by
  intro viewMode density
  have all := (arguments.leads_unpinned (σ := σ) config records busy mode row).append
    ((arguments.leads_pins (σ := σ) config records busy viewMode density).append
      (arguments.leads_list (σ := σ) config records busy _ _))
  simp only [List.append_assoc] at all
  simp only [messages, List.append_assoc]
  exact all

end

end Arguments

/-! ## What is printed -/

section
variable {σ : Type} [PreferenceStore σ] [WorkingStore σ] {store : σ}

theorem present_arranged {R : Type} [Record R] [Listing R] {α : Type} [Coordinate α]
    [SignedCoordinate α] (works : Works store) (arguments : Arguments) (config : Settings α)
    {files : Files} {records : List R} {busy : Option (List (Record.Id R))}
    (snapshotRead : readFile files arguments.snapshot (takeRecords R) = .ok records)
    (busyRead : (arguments.busy.mapM fun path => readFile files path (takeIds R)) = .ok busy) :
    let checked := (upgradeScreen store (Listing.screenName R) Screen.preferenceNames).2
    (present arguments R config files store).1 =
      .ok ((arguments.arrangement
        (ofStore config.viewMode checked (Listing.screenName R) records.length).1
        (ofStore config.density checked (Listing.screenName R) records.length).1
        config.pageSize).screen config records (busy.getD [])) := by
  intro checked
  let opened : Screen R α × σ := Screen.ofListing R config store
  let turn := opened.1.update (.collectionUpdated records) opened.2
  have current : Works checked :=
    works_upgradeScreen works (Listing.screenName R) Screen.preferenceNames
  have heard : Works turn.store := Screen.works_update (Screen.works_new works _ _ config) _ _
  have printed : (present arguments R config files store).1 =
      .ok (turn.screen.updateAll turn.store
        (busy.toList.map .busyChanged ++ arguments.messages R α)).screen := by
    unfold present
    rw [snapshotRead]
    dsimp only
    rw [busyRead]
  let viewMode : Selector ViewModePolicy ViewMode :=
    restored config.viewMode (Listing.screenName R) records.length
      (storedChoice ViewModePolicy checked (Listing.screenName R))
  let density : Selector DensityPolicy Density :=
    restored config.density (Listing.screenName R) records.length
      (storedChoice DensityPolicy checked (Listing.screenName R))
  let loaded := Arrangement.opening viewMode density config.pageSize
  have shown : turn.screen = loaded.screen config records [] := by
    simp only [loaded, viewMode, density, ← ofStore_fst current]
    exact Arrangement.screen_opened config records works
  have toBusy := Screen.Leads.given (σ := σ)
    (fun ids => loaded.screen config records (ids.getD []))
    (loaded.leads_busyChanged config records []) busy
  have run := toBusy.append (arguments.leads_messages config records (busy.getD []) _ _)
  rw [printed, shown, ofStore_fst current, ofStore_fst current]
  exact congrArg Except.ok (run turn.store heard)

/-- What a run prints is the plan of the screen that its options describe, in any combination of
them. -/
theorem display_as_described (works : Works store) (arguments : Arguments) (file : Option String)
    (env : Environment) (files : Files) (now : Instant) {records : List arguments.screen.Records}
    {busy : Option (List (Record.Id arguments.screen.Records))}
    (snapshotRead : readFile files arguments.snapshot (takeRecords arguments.screen.Records) =
      .ok records)
    (busyRead : (arguments.busy.mapM fun path =>
      readFile files path (takeIds arguments.screen.Records)) = .ok busy) :
    let config := Settings.resolve file env
    let checked := (upgradeScreen store (Listing.screenName arguments.screen.Records)
      Screen.preferenceNames).2
    ∃ screen : Screen arguments.screen.Records Float,
      resultOf (display arguments config files now store).1 =
          ⟨0, (screen.plan now).text, none⟩ ∧
        arguments.Describes config records (busy.getD []) checked screen := by
  intro config checked
  have usable : config.Usable := Settings.usable_usable _
  have shown := present_arranged works arguments config snapshotRead busyRead
  refine ⟨_, ?_, arguments.describes_arrangement config records (busy.getD []) checked
    usable.pageSize⟩
  rw [display_eq, displayRecords]
  dsimp only
  rw [shown]
  rfl

end

/-! ## A run with most options -/

def mailWith (id : Nat) (subject : String) : Email where
  id
  accountUid := "a"
  subject
  fromAddress := "x@y"
  fromName := none
  snippet := none
  isRead := false
  isStarred := false
  isArchived := false
  hasAttachments := false
  sentAt := none
  sizeBytes := none

def crowdedArguments : Arguments where
  screen := .emails
  snapshot := "mail.json"
  search := some "B"
  mode := none
  density := some .compact
  auto := true
  groupBy := none
  page := some 9
  pageSize := some 0
  selectAll := true
  reset := true
  busy := some "busy.json"
  watch := false

def mailbox : List Email :=
  [mailWith 1 "b", mailWith 2 "c", mailWith 3 "ab"]

def mailFiles : Files := fun path =>
  if path = "mail.json" then .ok (Json.Value.array (mailbox.map Listing.toValue)).render
  else if path = "busy.json" then .ok (Json.Value.array [.count 3]).render
  else .error .missing

/-- The grouped view is pinned. -/
def groupedStore : MemoryStore :=
  (Selector.pin (V := ViewMode) ⟨ViewModePolicy.standard, "emails", .auto, .flat, 0⟩ .grouped
    MemoryStore.new).2

theorem crowdedArguments_as_described :
    let config := Settings.resolve none fun _ => none
    ∃ screen : Screen Email Float,
      resultOf (display crowdedArguments config mailFiles .earliest groupedStore).1 =
          ⟨0, (screen.plan .earliest).text, none⟩ ∧
        (screen.viewMode.value = .flat ∧ screen.viewMode.isAuto = true) ∧
        (screen.density.value = .compact ∧ screen.density.isAuto = false) ∧
        (screen.pager.pageSize = 1 ∧ screen.pager.pageIndex = 2) ∧
        ∀ id : Nat, id ∈ screen.selection.ids ↔ id = 1 ∨ id = 3 := by
  intro config
  have working : Works groupedStore := trivial
  have fits : ∀ mail ∈ mailbox, Documented.Fits mail := by
    intro mail among
    simp only [mailbox, List.mem_cons, List.not_mem_nil, or_false] at among
    rcases among with rfl | rfl | rfl
    all_goals
      refine ⟨by decide, ?_⟩
      rintro n ⟨⟩
  have mail : readFile mailFiles "mail.json" (takeRecords Email) = .ok mailbox := by
    have taken := (survivesDocuments Email).together mailbox _ fits (.inl rfl)
    exact congrArg (Except.mapError RunError.json) taken
  have busy : readFile mailFiles "busy.json" (takeIds Email) = .ok [(3 : Nat)] := by
    have taken : Json.takeDocument (takeIds Email) (Json.Value.array [.count 3]).render =
        .ok [(3 : Nat)] :=
      Json.takeDocument_written (.inl rfl) ⟨Json.Value.legible_count (by decide), trivial⟩ rfl
    exact congrArg (Except.mapError RunError.json) taken
  have busyGiven : (crowdedArguments.busy.mapM fun path =>
      readFile mailFiles path (takeIds Email)) = .ok (some [(3 : Nat)]) :=
    congrArg (Except.map some) busy
  have run : ∃ screen : Screen Email Float,
      resultOf (display crowdedArguments config mailFiles .earliest groupedStore).1 =
          ⟨0, (screen.plan .earliest).text, none⟩ ∧
        crowdedArguments.Describes config mailbox [(3 : Nat)]
          (upgradeScreen groupedStore "emails" Screen.preferenceNames).2 screen :=
    display_as_described working crowdedArguments none (fun _ => none) mailFiles .earliest mail
      busyGiven
  obtain ⟨screen, printed, described⟩ := run
  have found : Filters.apply { Filters.none with searchText := "B" } mailbox =
      [mailWith 1 "b", mailWith 3 "ab"] := by
    decide +kernel
  have matching : screen.matching = [mailWith 1 "b", mailWith 3 "ab"] := by
    rw [Screen.matching, described.filters, described.collection]
    exact found
  refine ⟨screen, printed, ?_, ?_, ?_, ?_⟩
  · rw [described.viewMode]
    exact ⟨rfl, rfl⟩
  · rw [described.density]
    exact ⟨rfl, rfl⟩
  · rw [described.page, described.pageSize, matching]
    exact ⟨rfl, by decide⟩
  · intro id
    rw [described.selection, Screen.matchingIds, matching]
    simp [crowdedArguments, mailWith, Record.id]

end CommandLine

end AdaptiveView

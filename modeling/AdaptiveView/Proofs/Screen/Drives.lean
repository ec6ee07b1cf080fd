import AdaptiveView.Proofs.Screen.Aligned
import AdaptiveView.Proofs.Screen.Footprint

/-!
# What drives the choices of a screen

As long as a screen hears of no change in its store, its two choices and what is stored are driven by a
few messages: those that pin and release, those that bring a collection, of which only the length
counts, and those that drop all preferences.  So a run on a screen is, for its choices and its store, a
run of these drives.

Filters, order, pages, scrolling, selection and intents are none of them.  Two runs with the same drives
end with the same choices, whatever else happens in either.
-/

set_option autoImplicit false

namespace AdaptiveView

open WorkingStore Selector

inductive Drive where
  | sized (count : Nat)
  | modePinned (mode : ViewMode)
  | modeReleased
  | densityPinned (density : Density)
  | densityReleased
  | forgotten

namespace Message

variable {R : Type} [Record R] {α : Type}

def drive? : Message R α → Option Drive
  | .collectionUpdated records => some (.sized records.length)
  | .selectViewMode mode => some (.modePinned mode)
  | .autoViewMode => some .modeReleased
  | .selectDensity density => some (.densityPinned density)
  | .autoDensity => some .densityReleased
  | .resetPreferences => some .forgotten
  | _ => none

def isChange : Message R α → Bool
  | .preferenceChanged _ => true
  | _ => false

end Message

/-- The two choices of a screen, and its store. -/
structure Choices (σ : Type) where
  viewMode : Selector ViewModePolicy ViewMode
  density : Selector DensityPolicy Density
  store : σ

namespace Choices

variable {σ : Type} [PreferenceStore σ]

/-- A step of each selector, if there is one. -/
def step (choices : Choices σ) (mode? : Option (SelectorStep ViewMode))
    (density? : Option (SelectorStep Density)) : Choices σ :=
  { viewMode := choices.viewMode.movedIf mode?
    density := choices.density.movedIf density?
    store :=
      choices.density.storeAfter (choices.viewMode.storeAfter choices.store mode?) density? }

/-- Drops the stored preferences and reads both choices again. -/
def startOver (choices : Choices σ) : Choices σ :=
  let { viewMode, density, store } := choices
  let store := forgetScreen store viewMode.screen Screen.preferenceNames
  let (viewMode, store) := ofStore viewMode.policy store viewMode.screen viewMode.count
  let (density, store) := ofStore density.policy store density.screen density.count
  { viewMode, density, store }

def after (choices : Choices σ) : Drive → Choices σ
  | .sized count => choices.step (some (.resize count)) (some (.resize count))
  | .modePinned mode => choices.step (some (.pin mode)) none
  | .modeReleased => choices.step (some .release) none
  | .densityPinned density => choices.step none (some (.pin density))
  | .densityReleased => choices.step none (some .release)
  | .forgotten => choices.startOver

def run (choices : Choices σ) : List Drive → Choices σ
  | [] => choices
  | drive :: rest => (choices.after drive).run rest

end Choices

namespace Screen

variable {R : Type} [Record R] {α : Type} {σ : Type}

def choices (screen : Screen R α) (store : σ) : Choices σ :=
  ⟨screen.viewMode, screen.density, store⟩

variable [Coordinate α] [PreferenceStore σ]

theorem choices_update_of_drive {screen : Screen R α} (steady : screen.Steady)
    {message : Message R α} {drive : Drive} (drives : message.drive? = some drive) (store : σ) :
    let turn := screen.update message store
    turn.screen.choices turn.store = (screen.choices store).after drive := by
  intro turn
  cases message with
  | collectionUpdated records =>
      cases drives
      simp only [turn, choices, Choices.after, Choices.step, update, quiet, receiveCollection,
        movedIf, storeAfter, Selector.step, resize_snd, refit]
  | resetPreferences =>
      cases drives
      obtain ⟨⟨modeScreen, -, densityScreen, -⟩, mode, density⟩ := steady
      simp only [turn, choices, Choices.after, Choices.startOver, update, quiet, resetPreferences,
        refit, modeScreen, densityScreen, mode.samePolicy, mode.heard, density.samePolicy,
        density.heard]
  | selectViewMode _ | autoViewMode | selectDensity _ | autoDensity =>
      cases drives
      rfl
  | _ => cases drives

theorem choices_update_of_no_drive (screen : Screen R α) {message : Message R α}
    (idle : message.drive? = none) (unheard : message.isChange = false) (store : σ) :
    let turn := screen.update message store
    turn.screen.choices turn.store = screen.choices store := by
  intro turn
  cases message with
  | preferenceChanged change => cases unheard
  | collectionUpdated _ | selectViewMode _ | autoViewMode | selectDensity _ | autoDensity
  | resetPreferences => cases idle
  | searchChanged text =>
      simp only [turn, update]
      split <;> rfl
  | _ => rfl

/-- For its choices and its store a run on a screen is the run of its drives. -/
theorem choices_updateAll {screen : Screen R α} (steady : screen.Steady) (store : σ)
    {messages : List (Message R α)}
    (unheard : ∀ message ∈ messages, message.isChange = false) :
    let turn := screen.updateAll store messages
    turn.screen.choices turn.store =
      (screen.choices store).run (messages.filterMap Message.drive?) := by
  induction messages generalizing screen store with
  | nil => rfl
  | cons message rest later =>
      intro turn
      have further := later (steady.update message store) (screen.update message store).store
        (fun next among => unheard next (List.mem_cons_of_mem _ among))
      cases drives : message.drive? with
      | none =>
          have still := choices_update_of_no_drive screen drives
            (unheard message List.mem_cons_self) store
          rw [List.filterMap_cons_none drives, ← still]
          exact further
      | some drive =>
          have driven := choices_update_of_drive steady drives store
          rw [List.filterMap_cons_some drives, Choices.run, ← driven]
          exact further

end Screen

/-! ## Two runs -/

namespace Choices

variable {σ : Type} [PreferenceStore σ] [WorkingStore σ]

/-- The same choices over stores that hold the same texts. -/
structure Alike (one other : Choices σ) : Prop where
  viewMode : one.viewMode = other.viewMode
  density : one.density = other.density
  agree : AgreeOn (fun _ => True) one.store other.store

theorem Alike.step {one other : Choices σ} (alike : one.Alike other)
    (mode? : Option (SelectorStep ViewMode)) (density? : Option (SelectorStep Density)) :
    (one.step mode? density?).Alike (other.step mode? density?) := by
  obtain ⟨viewMode, density, agree⟩ := alike
  refine ⟨?_, ?_, ?_⟩
  · simp only [Choices.step, viewMode]
  · simp only [Choices.step, density]
  · simp only [Choices.step, storeAfter_eq_accessed, viewMode, density]
    exact (agree.accessed _).accessed _

theorem ofStore_congr {P V : Type} [Recommender P V] [Keyed V] {store other : σ}
    (agree : AgreeOn (fun _ => True) store other) (policy : P) (screen : String) (count : Nat) :
    (ofStore policy store screen count : Selector P V × σ).1 =
        (ofStore policy other screen count : Selector P V × σ).1 ∧
      AgreeOn (fun _ => True) (ofStore policy store screen count : Selector P V × σ).2
        (ofStore policy other screen count : Selector P V × σ).2 := by
  have own : AgreeOn (Under screen) store other := agree.weaken fun _ _ => trivial
  constructor
  · rw [ofStore_fst agree.works, ofStore_fst agree.otherWorks, Screen.storedChoice_of_agreeOn own]
  · rw [ofStore_snd, ofStore_snd]
    exact agree.accessed (readings P screen)

theorem Alike.startOver {one other : Choices σ} (alike : one.Alike other) :
    one.startOver.Alike other.startOver := by
  obtain ⟨oneMode, oneDensity, oneStore⟩ := one
  obtain ⟨otherMode, otherDensity, otherStore⟩ := other
  obtain ⟨rfl, rfl, agree⟩ := alike
  have cleared : AgreeOn (fun _ => True)
      (forgetScreen oneStore oneMode.screen Screen.preferenceNames)
      (forgetScreen otherStore oneMode.screen Screen.preferenceNames) := by
    rw [accessed_removals, accessed_removals]
    exact agree.accessed _
  have mode := ofStore_congr cleared oneMode.policy oneMode.screen oneMode.count
  have density := ofStore_congr mode.2 oneDensity.policy oneDensity.screen oneDensity.count
  exact ⟨mode.1, density.1, density.2⟩

theorem Alike.after {one other : Choices σ} (alike : one.Alike other) (drive : Drive) :
    (one.after drive).Alike (other.after drive) := by
  cases drive with
  | forgotten => exact alike.startOver
  | _ => exact alike.step _ _

theorem Alike.run {one other : Choices σ} (alike : one.Alike other) (drives : List Drive) :
    (one.run drives).Alike (other.run drives) := by
  induction drives generalizing one other with
  | nil => exact alike
  | cons drive rest later => exact later (alike.after drive)

/-- Stores with the same texts open a screen with the same choices. -/
theorem alike_opened {R : Type} [Record R] {α : Type} [Coordinate α] {store other : σ}
    (agree : AgreeOn (fun _ => True) store other) (name : String)
    (sort : SortState (Record.SortField R)) (config : Settings α) :
    let opened : Screen R α × σ := Screen.new name sort config store
    let reopened : Screen R α × σ := Screen.new name sort config other
    (opened.1.choices opened.2).Alike (reopened.1.choices reopened.2) := by
  intro opened reopened
  have own : AgreeOn (Under name) store other := agree.weaken fun _ _ => trivial
  have same : opened.1 = reopened.1 := Screen.new_of_agreeOn own sort config
  have version : (PreferenceStore.read store (versionKey name)).1 =
      (PreferenceStore.read other (versionKey name)).1 := agree.read trivial
  refine ⟨congrArg Screen.viewMode same, congrArg Screen.density same, ?_⟩
  simp only [Screen.choices, opened, reopened, Screen.store_new_eq_accessed, version]
  exact agree.accessed _

end Choices

namespace Screen

variable {R : Type} [Record R] {α σ : Type} [Coordinate α] [PreferenceStore σ] [WorkingStore σ]

/-- Two runs with the same drives end with the same choices and the same stored texts.  They start on
the same store, whether it works or not, or on stores that work and hold the same texts. -/
theorem choices_follow_drives {store other : σ}
    (alike : store = other ∨ Works store ∧ Works other ∧ content store = content other)
    (name : String) (sort : SortState (Record.SortField R)) (config : Settings α)
    {messages others : List (Message R α)}
    (unheard : ∀ message ∈ messages, message.isChange = false)
    (othersUnheard : ∀ message ∈ others, message.isChange = false)
    (sameDrives : messages.filterMap Message.drive? = others.filterMap Message.drive?) :
    let opened : Screen R α × σ := new name sort config store
    let reopened : Screen R α × σ := new name sort config other
    let one := opened.1.updateAll opened.2 messages
    let two := reopened.1.updateAll reopened.2 others
    one.screen.viewMode = two.screen.viewMode ∧ one.screen.density = two.screen.density ∧
      content one.store = content two.store := by
  intro opened reopened one two
  have steady := steady_new name sort config store
  have steadyToo := steady_new name sort config other
  have run : one.screen.choices one.store =
      (opened.1.choices opened.2).run (messages.filterMap Message.drive?) :=
    choices_updateAll steady opened.2 unheard
  have runToo : two.screen.choices two.store =
      (reopened.1.choices reopened.2).run (others.filterMap Message.drive?) :=
    choices_updateAll steadyToo reopened.2 othersUnheard
  rw [← sameDrives] at runToo
  rcases alike with rfl | ⟨works, otherWorks, sameTexts⟩
  · have same : one.screen.choices one.store = two.screen.choices two.store := run.trans runToo.symm
    refine ⟨congrArg Choices.viewMode same, congrArg Choices.density same, ?_⟩
    exact congrArg content (congrArg Choices.store same)
  · have agree : AgreeOn (fun _ => True) store other :=
      ⟨works, otherWorks, fun key _ => congrFun sameTexts key⟩
    have ended := (Choices.alike_opened agree name sort config).run
      (messages.filterMap Message.drive?)
    rw [← run, ← runToo] at ended
    exact ⟨ended.viewMode, ended.density, funext fun key => ended.agree.texts key trivial⟩

/-- A density that is pinned. -/
def minimalRows : Entries :=
  ⟨[("accounts.prefs_version", "1"), ("accounts.density", "minimal"),
    ("accounts.density_auto", "false")]⟩

def browsed : List (Message Account Float) :=
  [.collectionUpdated [accountWith "a" .active, accountWith "b" .error], .statusFilter (.only .error),
    .selectViewMode .grouped, .setPageSize 1, .selectAllVisible, .deleteSelected,
    .collectionUpdated [accountWith "a" .active], .autoDensity]

def unbrowsed : List (Message Account Float) :=
  [.searchChanged "c", .collectionUpdated [accountWith "c" .active, accountWith "d" .active],
    .selectViewMode .grouped, .collectionUpdated [accountWith "e" .error], .groupBy .domain,
    .autoDensity]

theorem browsed_as_unbrowsed :
    let store : MemoryStore := ⟨minimalRows, .new⟩
    let other : MemoryStore := ⟨minimalRows, ChangeFeed.new.report "emails.density" none⟩
    let opened : Screen Account Float × MemoryStore := ofListing Account .standard store
    let reopened : Screen Account Float × MemoryStore := ofListing Account .standard other
    let one := opened.1.updateAll opened.2 browsed
    let two := reopened.1.updateAll reopened.2 unbrowsed
    (one.screen.viewMode.kind, one.screen.viewMode.value) = (.pinned, .grouped) ∧
      (two.screen.density.kind, two.screen.density.value) = (.auto, .detailed) ∧
      one.screen.viewMode = two.screen.viewMode ∧ one.screen.density = two.screen.density ∧
      content one.store = content two.store := by
  intro store other opened reopened one two
  have alike : store = other ∨ Works store ∧ Works other ∧ content store = content other :=
    .inr ⟨trivial, trivial, rfl⟩
  refine ⟨by decide, by decide, ?_⟩
  exact choices_follow_drives alike "accounts" Listing.initialSort .standard (by decide) (by decide) rfl

end Screen

end AdaptiveView

import AdaptiveView.Proofs.Screen.Aligned
import AdaptiveView.Proofs.Screen.Rereading
import AdaptiveView.Proofs.Selector.Restart

/-!
# A screen hears of its own changes

Whatever a screen stores comes back to it as a change of one of its own preferences, and it reads both
choices again.  As long as nobody else writes to the store this is never news: what is stored describes
both selectors after every message, so reading them again gives what the screen has.

The one store that this excludes is one which tells, right after the screen is opened, of a pin of
nothing.  There the first size that is followed would make a pin of it, and the echo would be news.
-/

set_option autoImplicit false

namespace AdaptiveView

open WorkingStore Selector ScreenChoice

namespace Selector

variable {P V : Type} [Recommender P V] [Keyed V] [DecidableEq V]

theorem Kept.stepIf [LawfulKeyed V] {live : Selector P V} {stored : StoredChoice}
    (kept : Kept live stored) (next? : Option (SelectorStep V)) :
    Kept (live.movedIf next?) (live.leavesIf stored next?) := by
  cases next? with
  | none => exact kept
  | some next =>
      cases next with
      | resize count => exact kept.resize count
      | pin value => exact kept_of_not_resize live stored rfl
      | release => exact kept_of_not_resize live stored rfl

omit [DecidableEq V] in
theorem kept_restored (policy : P) (screen : String) (count : Nat) {stored : StoredChoice}
    (whole : ¬ stored.Damaged V) : Kept (restored policy screen count stored : Selector P V) stored :=
  ⟨rfl, whole⟩

omit [DecidableEq V] in
theorem not_damaged_nothing : ¬ (⟨none, none⟩ : StoredChoice).Damaged V := by
  rintro ⟨flag, -⟩
  cases flag

omit [DecidableEq V] in
/-- Reading a selector that the store describes gives it back. -/
theorem Kept.restored_eq {live : Selector P V} {stored : StoredChoice} (kept : Kept live stored)
    {policy : P} {screen : String} {count : Nat} (sameScreen : live.screen = screen)
    (settled : live.Settled policy count) : restored policy screen count stored = live := by
  rw [← settled.samePolicy, ← sameScreen, ← settled.heard]
  exact kept.1

/-- What is stored describes the selector on every occasion. -/
theorem Kept.onOccasion [LawfulKeyed V] {live : Selector P V} {stored : StoredChoice}
    (kept : Kept live stored) {policy : P} {screen : String} {count : Nat}
    (sameScreen : live.screen = screen) (settled : live.Settled policy count)
    (occasion : Occasion V) :
    Kept (live.onOccasion policy screen count stored occasion)
      (live.storedOn stored occasion) := by
  cases occasion with
  | step next? => exact kept.stepIf next?
  | reread =>
      rw [Selector.onOccasion, kept.restored_eq sameScreen settled,
        rereadAs_of_resembles ⟨rfl, rfl⟩]
      exact kept
  | reset => exact kept_restored _ _ _ not_damaged_nothing

end Selector

namespace Screen

variable {R : Type} [Record R] {α : Type} [Coordinate α]
variable {σ : Type} [PreferenceStore σ] [WorkingStore σ]

/-- A screen with both selectors as the store describes them. -/
structure Described (screen : Screen R α) (store : σ) : Prop extends Steady screen where
  works : Works store
  mode : Kept screen.viewMode (storedChoice ViewModePolicy store screen.name)
  density : Kept screen.density (storedChoice DensityPolicy store screen.name)

section
variable {P V : Type} [Recommender P V] [Keyed V] [DecidableEq V] [LawfulKeyed V]
  [ScreenChoice P V]

omit [LawfulKeyed V] in
theorem kept_new {store : σ} (works : Works store) (name : String)
    (sort : SortState (Record.SortField R)) (config : Settings α) :
    let opened : Screen R α × σ := new name sort config store
    ¬ (storedChoice P opened.2 name).Damaged V →
      Kept (held opened.1 : Selector P V) (storedChoice P opened.2 name) := by
  intro opened whole
  rw [held_new_of_works works name sort config]
  exact kept_restored _ _ _ whole

theorem kept_update {screen : Screen R α} {store : σ}
    (kept : Kept (held screen : Selector P V) (storedChoice P store screen.name))
    (works : Works store) (rooted : screen.Rooted)
    (settled : (held screen : Selector P V).Settled (policyOf screen.config)
      screen.collection.length)
    (message : Message R α) :
    let later := screen.update message store
    Kept (held later.screen : Selector P V) (storedChoice P later.store later.screen.name) := by
  intro later
  rw [name_update, stored_update works rooted, held_update_of_works works]
  exact kept.onOccasion (rooted_held rooted).1 settled _

end

theorem described_new {store : σ} (works : Works store) (name : String)
    (sort : SortState (Record.SortField R)) (config : Settings α) :
    let opened : Screen R α × σ := new name sort config store
    ¬ (storedChoice ViewModePolicy opened.2 name).Damaged ViewMode →
      ¬ (storedChoice DensityPolicy opened.2 name).Damaged Density →
        opened.1.Described opened.2 := by
  intro opened mode density
  constructor
  case toSteady => exact steady_new name sort config store
  case works => exact works_new works name sort config
  case mode => exact kept_new (P := ViewModePolicy) works name sort config mode
  case density => exact kept_new (P := DensityPolicy) works name sort config density

theorem Described.update {screen : Screen R α} {store : σ} (described : screen.Described store)
    (message : Message R α) :
    (screen.update message store).screen.Described (screen.update message store).store := by
  obtain ⟨steady, works, mode, density⟩ := described
  have rooted := steady.toRooted
  constructor
  case toSteady => exact steady.update message store
  case works => exact works_update works screen message
  case mode =>
    exact kept_update (P := ViewModePolicy) mode works rooted steady.modeSettled message
  case density =>
    exact kept_update (P := DensityPolicy) density works rooted steady.densitySettled message

theorem Described.updateAll {screen : Screen R α} {store : σ}
    (described : screen.Described store) (messages : List (Message R α)) :
    (screen.updateAll store messages).screen.Described
      (screen.updateAll store messages).store := by
  induction messages generalizing screen store with
  | nil => exact described
  | cons message rest later => exact later (described.update message)

/-- Whatever change a screen hears of that the store describes, it reads what it has. -/
theorem Described.receiveChange {screen : Screen R α} {store : σ}
    (described : screen.Described store) (change : Change) :
    (screen.receiveChange change store).1 = screen := by
  obtain ⟨steady, works, mode, density⟩ := described
  have rooted := steady.toRooted
  by_cases own : screen.Owns change
  · have modeRead : (ofStore screen.config.viewMode store screen.name
        screen.collection.length).1 = screen.viewMode := by
      rw [ofStore_fst works, mode.restored_eq rooted.modeScreen steady.modeSettled]
    have densityRead : (ofStore screen.config.density
        (ofStore screen.config.viewMode store screen.name screen.collection.length).2
        screen.name screen.collection.length).1 = screen.density := by
      rw [ofStore_fst_of_read works, density.restored_eq rooted.densityScreen
        steady.densitySettled]
    have same : screen.density.Resembles screen.density := ⟨rfl, rfl⟩
    rw [receiveChange_of_own own]
    dsimp only
    rw [modeRead, densityRead, rereadAs_of_resembles ⟨rfl, rfl⟩, rereadAs_of_resembles same,
      if_pos same]
  · rw [receiveChange_of_foreign own]

/-- Changes one after the other that the screen hears of, from whomever. -/
theorem Described.updateAll_changes {screen : Screen R α} {store : σ}
    (described : screen.Described store) (changes : List Change) :
    let heard := screen.updateAll store (changes.map Message.preferenceChanged)
    heard.screen = screen ∧ content heard.store = content store ∧ heard.intents = [] := by
  induction changes generalizing store with
  | nil => exact ⟨rfl, rfl, rfl⟩
  | cons change rest later =>
      have still := described.update (.preferenceChanged change)
      have same : (screen.update (.preferenceChanged change) store).screen = screen :=
        described.receiveChange change
      have kept := (content_update_preferenceChanged described.works screen change).2
      rw [same] at still
      obtain ⟨screenLater, contentLater, intentsLater⟩ := later still
      simp only [List.map_cons, Screen.updateAll, same]
      refine ⟨screenLater, contentLater.trans kept, ?_⟩
      rw [intentsLater]
      rfl

/-- On a store that nobody else writes, and that did not tell of a pin of nothing when the screen was
opened, a screen is left as it is by whatever changes it hears of, after whatever messages. -/
theorem own_changes_are_no_news {store : σ} (works : Works store) (name : String)
    (sort : SortState (Record.SortField R)) (config : Settings α)
    (mode : ¬ (storedChoice ViewModePolicy
      (new name sort config store : Screen R α × σ).2 name).Damaged ViewMode)
    (density : ¬ (storedChoice DensityPolicy
      (new name sort config store : Screen R α × σ).2 name).Damaged Density)
    (messages : List (Message R α)) (changes : List Change) :
    let opened : Screen R α × σ := new name sort config store
    let turn := opened.1.updateAll opened.2 messages
    let echoed := turn.screen.updateAll turn.store (changes.map Message.preferenceChanged)
    echoed.screen = turn.screen ∧ content echoed.store = content turn.store ∧
      echoed.intents = [] := by
  intro opened turn echoed
  have described : turn.screen.Described turn.store :=
    (described_new works name sort config mode density).updateAll messages
  exact described.updateAll_changes changes

/-- A store that tells of a pin of the groups. -/
def pinnedStore : MemoryStore :=
  ⟨⟨[("accounts.prefs_version", "1"), ("accounts.view_mode", "grouped"),
    ("accounts.view_mode_auto", "false")]⟩, .new⟩

/-- The pin is dropped with everything else, and then a density is picked. -/
def droppedPin : List (Message Account Float) :=
  [.collectionUpdated [accountWith "a" .active, accountWith "b" .error], .resetPreferences,
    .selectDensity .minimal, .itemMeasured 1 90]

/-- Only now the screen hears that the flag of the pin has gone, and of a change never made. -/
theorem late_changes_are_no_news :
    let opened : Screen Account Float × MemoryStore :=
      new "accounts" (.ascending AccountSortField.email) .standard pinnedStore
    let turn := opened.1.updateAll opened.2 droppedPin
    let late : List Change :=
      [⟨"accounts.view_mode_auto", none⟩, ⟨"accounts.density", some "detailed"⟩]
    opened.1.viewMode.kind = .pinned ∧ turn.screen.viewMode.kind = .auto ∧
      (turn.screen.updateAll turn.store (late.map Message.preferenceChanged)).screen =
        turn.screen := by
  intro opened turn late
  have works : Works pinnedStore := trivial
  have unchanged := own_changes_are_no_news works "accounts" (.ascending AccountSortField.email)
    (Settings.standard (α := Float)) (by decide) (by decide) droppedPin late
  exact ⟨by decide, by decide, unchanged.1⟩

end Screen

end AdaptiveView

import AdaptiveView.Proofs.Preference.Agreement
import AdaptiveView.Proofs.Screen.Rereading
import AdaptiveView.Proofs.Selector.Torn

/-!
# What a screen does to its store, and takes from it

Whatever store a screen is on, what it does there with a message is a list of accesses that depends on
the screen alone, all of them under keys that begin with its name.  And all that the store decides of
the screen is which two selectors are read, on the occasions on which they are.

Nothing here supposes that the store works, except where it is said what is read.
-/

set_option autoImplicit false

namespace AdaptiveView

open WorkingStore

/-- The key begins with this name. -/
def Under (name key : String) : Prop :=
  (name ++ ".").toList.isPrefixOf key.toList = true

instance (name : String) : DecidablePred (Under name) :=
  fun _ => inferInstanceAs (Decidable (_ = _))

theorem under_screenKey (name preference : String) : Under name (screenKey name preference) := by
  have text : (screenKey name preference).toList = (name ++ ".").toList ++ preference.toList := by
    rw [screenKey, String.toList_append]
  unfold Under
  rw [List.isPrefixOf_iff_prefix, text]
  exact List.prefix_append _ _

theorem accessed_removals {σ : Type} [PreferenceStore σ] (store : σ) (name : String)
    (preferences : List String) :
    forgetScreen store name preferences =
      accessed store (preferences.map fun preference => .remove (screenKey name preference)) := by
  unfold forgetScreen
  induction preferences generalizing store with
  | nil => rfl
  | cons preference rest later => exact later _

/-- What is done to a store to check the version of a screen's preferences, given the version that is
read there. -/
def upgradeAccesses (name : String) (preferences : List String) (version : Option String) :
    List StoreAccess :=
  .read (versionKey name) ::
    if version = some preferenceVersion then []
    else
      (if version.isSome then preferences.map fun preference => .remove (screenKey name preference)
        else []) ++ [.write (versionKey name) preferenceVersion]

theorem upgradeScreen_eq_accessed {σ : Type} [PreferenceStore σ] (store : σ) (name : String)
    (preferences : List String) :
    (upgradeScreen store name preferences).2 =
      accessed store (upgradeAccesses name preferences
        (PreferenceStore.read store (versionKey name)).1) := by
  unfold upgradeScreen upgradeAccesses
  dsimp only
  split
  · rfl
  · split
    · rw [accessed, accessed_append, accessed_removals]
      rfl
    · rfl

theorem under_upgradeAccesses {name : String} {preferences : List String}
    {version : Option String} {access : StoreAccess}
    (among : access ∈ upgradeAccesses name preferences version) : Under name access.key := by
  unfold upgradeAccesses at among
  rcases List.mem_cons.mp among with rfl | later
  · exact under_screenKey _ _
  · split at later
    · cases later
    · rcases List.mem_append.mp later with removal | stamp
      · split at removal
        · obtain ⟨preference, -, rfl⟩ := List.mem_map.mp removal
          exact under_screenKey _ _
        · cases removal
      · rw [List.mem_singleton.mp stamp]
        exact under_screenKey _ _

namespace Selector

variable {P V : Type} [Recommender P V]

def readings (P : Type) {V : Type} [Recommender P V] (screen : String) : List StoreAccess :=
  [.read (flagKey P screen), .read (choiceKey P screen)]

theorem under_readings {screen : String} {access : StoreAccess}
    (among : access ∈ readings P screen) : Under screen access.key := by
  simp only [readings, List.mem_cons, List.not_mem_nil, or_false] at among
  rcases among with rfl | rfl
  · exact under_screenKey _ _
  · exact under_screenKey _ _

variable [Keyed V]

theorem ofStore_snd {σ : Type} [PreferenceStore σ] (policy : P) (store : σ) (screen : String)
    (count : Nat) :
    (ofStore policy store screen count : Selector P V × σ).2 =
      accessed store (readings P screen) := rfl

variable [DecidableEq V]

/-- What a step of a selector does to a store, if there is one. -/
def accesses (selector : Selector P V) : Option (SelectorStep V) → List StoreAccess
  | none => []
  | some next => (selector.writes next).map fun write => .write write.1 write.2

theorem saveEach_eq_accessed {σ : Type} [PreferenceStore σ] (store : σ)
    (writes : List (String × String)) :
    saveEach store writes = accessed store (writes.map fun write => .write write.1 write.2) := by
  unfold saveEach
  induction writes generalizing store with
  | nil => rfl
  | cons write rest later => exact later _

theorem storeAfter_eq_accessed {σ : Type} [PreferenceStore σ] (selector : Selector P V) (store : σ)
    (next? : Option (SelectorStep V)) :
    selector.storeAfter store next? = accessed store (selector.accesses next?) := by
  cases next? with
  | none => rfl
  | some next => rw [storeAfter, step_snd, saveEach_eq_accessed, accesses]

theorem under_accesses {selector : Selector P V} {next? : Option (SelectorStep V)}
    {access : StoreAccess} (among : access ∈ selector.accesses next?) :
    Under selector.screen access.key := by
  cases next? with
  | none => cases among
  | some next =>
      obtain ⟨write, written, rfl⟩ := List.mem_map.mp among
      have place : write.1 = choiceKey P selector.screen ∨
          write.1 = flagKey P selector.screen := by
        cases next with
        | pin value =>
            simp only [writes, List.mem_cons, List.not_mem_nil, or_false] at written
            rcases written with rfl | rfl
            · exact .inl rfl
            · exact .inr rfl
        | release =>
            simp only [writes, List.mem_cons, List.not_mem_nil, or_false] at written
            rcases written with rfl | rfl
            · exact .inl rfl
            · exact .inr rfl
        | resize count =>
            rw [writes] at written
            split at written
            · rw [List.mem_singleton.mp written]
              exact .inl rfl
            · cases written
      rcases place with here | here
      · rw [StoreAccess.key, here]
        exact under_screenKey _ _
      · rw [StoreAccess.key, here]
        exact under_screenKey _ _

end Selector

open Selector

namespace Screen

variable {R : Type} [Record R] {α : Type}

def choiceReadings (name : String) : List StoreAccess :=
  readings ViewModePolicy name ++ readings DensityPolicy name

theorem under_choiceReadings {name : String} {access : StoreAccess}
    (among : access ∈ choiceReadings name) : Under name access.key := by
  rcases List.mem_append.mp among with mode | density
  · exact under_readings mode
  · exact under_readings density

/-- All that is done to a store to open a screen, given the version that is read there. -/
def openingAccesses (name : String) (version : Option String) : List StoreAccess :=
  upgradeAccesses name preferenceNames version ++ choiceReadings name

theorem under_openingAccesses {name : String} {version : Option String} {access : StoreAccess}
    (among : access ∈ openingAccesses name version) : Under name access.key := by
  rcases List.mem_append.mp among with upgrade | reading
  · exact under_upgradeAccesses upgrade
  · exact under_choiceReadings reading

/-- All that a screen does to its store with a message. -/
def accesses (screen : Screen R α) (message : Message R α) : List StoreAccess :=
  match message with
  | .preferenceChanged change =>
      if screen.Owns change then choiceReadings screen.name else []
  | .resetPreferences =>
      (preferenceNames.map fun preference => .remove (screenKey screen.name preference)) ++
        choiceReadings screen.name
  | message =>
      screen.viewMode.accesses message.modeStep? ++ screen.density.accesses message.densityStep?

theorem under_accesses {screen : Screen R α} (rooted : screen.Rooted) {message : Message R α}
    {access : StoreAccess} (among : access ∈ screen.accesses message) :
    Under screen.name access.key := by
  cases message with
  | preferenceChanged change =>
      rw [accesses] at among
      split at among
      · exact under_choiceReadings among
      · cases among
  | resetPreferences =>
      rcases List.mem_append.mp among with removal | reading
      · obtain ⟨preference, -, rfl⟩ := List.mem_map.mp removal
        exact under_screenKey _ _
      · exact under_choiceReadings reading
  | _ =>
      rcases List.mem_append.mp among with mode | density
      · rw [← rooted.modeScreen]
        exact Selector.under_accesses mode
      · rw [← rooted.densityScreen]
        exact Selector.under_accesses density

/-- The two selectors that a screen reads from a store. -/
def reading {σ : Type} [PreferenceStore σ] (screen : Screen R α) (store : σ) :
    Selector ViewModePolicy ViewMode × Selector DensityPolicy Density :=
  let count := screen.collection.length
  let (viewMode, store) := ofStore screen.config.viewMode store screen.name count
  (viewMode, (ofStore screen.config.density store screen.name count).1)

/-- What a screen reads with a message, if it does. -/
def reading? {σ : Type} [PreferenceStore σ] (screen : Screen R α) (message : Message R α)
    (store : σ) : Option (Selector ViewModePolicy ViewMode × Selector DensityPolicy Density) :=
  match message with
  | .preferenceChanged change =>
      if screen.Owns change then some (screen.reading store) else none
  | .resetPreferences =>
      some (screen.reading (forgetScreen store screen.name preferenceNames))
  | _ => none

theorem reading_of_works {σ : Type} [PreferenceStore σ] [WorkingStore σ] {store : σ}
    (works : Works store) (screen : Screen R α) :
    screen.reading store =
      (restored screen.config.viewMode screen.name screen.collection.length
          (storedChoice ViewModePolicy store screen.name),
        restored screen.config.density screen.name screen.collection.length
          (storedChoice DensityPolicy store screen.name)) := by
  have mode : (ofStore screen.config.viewMode store screen.name screen.collection.length).1 =
      restored screen.config.viewMode screen.name screen.collection.length
        (storedChoice ViewModePolicy store screen.name) :=
    ofStore_fst works _ _ _
  have density := ofStore_fst_of_read works screen.config.density screen.config.viewMode
    screen.name screen.collection.length
  unfold reading
  exact Prod.ext mode density

section
variable {σ : Type} [PreferenceStore σ] [WorkingStore σ] {store other : σ} {name : String}

theorem storedChoice_of_agreeOn {P V : Type} [Recommender P V]
    (agree : AgreeOn (Under name) store other) :
    storedChoice P store name = storedChoice P other name := by
  unfold storedChoice flagKey choiceKey
  rw [agree.texts _ (under_screenKey _ _), agree.texts _ (under_screenKey _ _)]

theorem reading_of_agreeOn {screen : Screen R α} (agree : AgreeOn (Under screen.name) store other) :
    screen.reading store = screen.reading other := by
  rw [reading_of_works agree.works, reading_of_works agree.otherWorks,
    storedChoice_of_agreeOn agree, storedChoice_of_agreeOn agree]

theorem reading?_of_agreeOn {screen : Screen R α}
    (agree : AgreeOn (Under screen.name) store other) (message : Message R α) :
    screen.reading? message store = screen.reading? message other := by
  cases message with
  | preferenceChanged change => simp only [reading?, reading_of_agreeOn agree]
  | resetPreferences =>
      have cleared := agree.accessed
        (preferenceNames.map fun preference => .remove (screenKey screen.name preference))
      simp only [reading?, accessed_removals, reading_of_agreeOn cleared]
  | _ => rfl

end

variable [Coordinate α]

section
variable {σ : Type} [PreferenceStore σ]

theorem store_new_eq_accessed (name : String) (sort : SortState (Record.SortField R))
    (config : Settings α) (store : σ) :
    (new name sort config store : Screen R α × σ).2 =
      accessed store (openingAccesses name
        (PreferenceStore.read store (versionKey name)).1) := by
  rw [openingAccesses, choiceReadings, accessed_append, accessed_append,
    ← upgradeScreen_eq_accessed]
  rfl

/-- The two selectors are all that a store decides of a new screen. -/
theorem new_congr {τ : Type} [PreferenceStore τ] {name : String}
    {sort : SortState (Record.SortField R)} {config : Settings α} {store : σ} {other : τ}
    (mode : (new name sort config store : Screen R α × σ).1.viewMode =
      (new name sort config other : Screen R α × τ).1.viewMode)
    (density : (new name sort config store : Screen R α × σ).1.density =
      (new name sort config other : Screen R α × τ).1.density) :
    (new name sort config store : Screen R α × σ).1 =
      (new name sort config other : Screen R α × τ).1 := by
  simp only [new] at mode density ⊢
  rw [mode, density]

theorem held_eq_of_agreeOn {P V : Type} [Recommender P V] [Keyed V] [DecidableEq V]
    [ScreenChoice P V] [WorkingStore σ] {store other : σ} {name : String} (works : Works store)
    (otherWorks : Works other) {sort : SortState (Record.SortField R)} {config : Settings α}
    (agree : AgreeOn (Under name) (new name sort config store : Screen R α × σ).2
      (new name sort config other : Screen R α × σ).2) :
    (ScreenChoice.held (new name sort config store : Screen R α × σ).1 : Selector P V) =
      ScreenChoice.held (new name sort config other : Screen R α × σ).1 := by
  rw [held_new_of_works works, held_new_of_works otherWorks, storedChoice_of_agreeOn agree]

/-- What a screen is opened with depends on the texts under its own name alone. -/
theorem new_of_agreeOn [WorkingStore σ] {store other : σ} {name : String}
    (agree : AgreeOn (Under name) store other) (sort : SortState (Record.SortField R))
    (config : Settings α) :
    (new name sort config store : Screen R α × σ).1 =
      (new name sort config other : Screen R α × σ).1 := by
  have version : (PreferenceStore.read store (versionKey name)).1 =
      (PreferenceStore.read other (versionKey name)).1 := agree.read (under_screenKey _ _)
  have opened : AgreeOn (Under name) (new name sort config store : Screen R α × σ).2
      (new name sort config other : Screen R α × σ).2 := by
    rw [store_new_eq_accessed, store_new_eq_accessed, version]
    exact agree.accessed _
  refine new_congr ?_ ?_
  · exact held_eq_of_agreeOn (P := ViewModePolicy) agree.works agree.otherWorks opened
  · exact held_eq_of_agreeOn (P := DensityPolicy) agree.works agree.otherWorks opened

theorem store_update_eq_accessed (screen : Screen R α) (message : Message R α) (store : σ) :
    (screen.update message store).store = accessed store (screen.accesses message) := by
  cases message with
  | preferenceChanged change =>
      by_cases own : screen.Owns change
      · rw [accesses, if_pos own, choiceReadings, accessed_append, update, quiet,
          receiveChange_of_own own]
        rfl
      · rw [accesses, if_neg own, update, quiet, receiveChange_of_foreign own]
        rfl
  | resetPreferences =>
      rw [accesses, choiceReadings, accessed_append, accessed_append, ← accessed_removals]
      rfl
  | _ =>
      rw [store_update screen store (by simp) (by simp), storeAfter_eq_accessed,
        storeAfter_eq_accessed, ← accessed_append]
      rfl

/-- On two stores of which it reads the same, a screen comes out of a message the same. -/
theorem update_congr {τ : Type} [PreferenceStore τ] (screen : Screen R α) (message : Message R α)
    {store : σ} {other : τ} (same : screen.reading? message store = screen.reading? message other) :
    (screen.update message store).screen = (screen.update message other).screen := by
  cases message with
  | collectionUpdated records =>
      simp only [update, quiet, receiveCollection, resize_fst, resize_snd]
  | preferenceChanged change =>
      by_cases own : screen.Owns change
      · simp only [reading?, own, if_true, Option.some.injEq, reading, Prod.mk.injEq] at same
        simp only [update, quiet, receiveChange_of_own own, same.1, same.2]
      · simp only [update, quiet, receiveChange_of_foreign own]
  | resetPreferences =>
      simp only [reading?, Option.some.injEq, reading, Prod.mk.injEq] at same
      simp only [update, quiet, resetPreferences, same.1, same.2]
  | searchChanged text =>
      simp only [update]
      split <;> rfl
  | _ => rfl

theorem intents_update_congr {τ : Type} [PreferenceStore τ] (screen : Screen R α)
    (message : Message R α) (store : σ) (other : τ) :
    (screen.update message store).intents = (screen.update message other).intents := by
  cases message with
  | searchChanged text =>
      simp only [update]
      split <;> rfl
  | _ => rfl

end

end Screen

end AdaptiveView

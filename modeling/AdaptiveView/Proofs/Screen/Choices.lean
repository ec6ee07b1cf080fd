import AdaptiveView.Proofs.Selector.Stored
import AdaptiveView.Screen.Update

/-!
# What messages do to the two choices

Of all messages only a few reach the selectors of a screen or its store: those that pin, those that
release, a collection of another size, and the two that make the screen read its store again.  Each
of the first three is one step of a selector; every other message leaves the store as it was.

The view mode and the density are chosen in the same way, so what is said of a choice is said of both
at once.  What tells them apart is the step that each takes with a message, and that the density is
read after the view mode.
-/

set_option autoImplicit false

namespace AdaptiveView

open WorkingStore Selector

section Steps
variable {R : Type} [Record R] {α : Type}

/-- The step that the view mode takes with a message. -/
def Message.modeStep? : Message R α → Option (SelectorStep ViewMode)
  | .collectionUpdated records => some (.resize records.length)
  | .selectViewMode mode => some (.pin mode)
  | .autoViewMode => some .release
  | _ => none

def Message.densityStep? : Message R α → Option (SelectorStep Density)
  | .collectionUpdated records => some (.resize records.length)
  | .selectDensity density => some (.pin density)
  | .autoDensity => some .release
  | _ => none

def Message.isReset : Message R α → Bool
  | .resetPreferences => true
  | _ => false

/-- What is held of a collection after a message. -/
def Screen.heldAfter (collection : List R) : Message R α → List R
  | .collectionUpdated records => records
  | _ => collection

def SelectorStep.countFrom {V : Type} (count : Nat) : Option (SelectorStep V) → Nat
  | some (.resize later) => later
  | _ => count

end Steps

/-- How a message reaches a selector. -/
inductive Occasion (V : Type) where
  /-- The selector takes a step, if there is one. -/
  | step (next? : Option (SelectorStep V))
  /-- It is read from the store again. -/
  | reread
  /-- What is stored of it is dropped, and then it is read. -/
  | reset

namespace Selector

variable {P V : Type} [Recommender P V] [Keyed V] [DecidableEq V]

/-- Both selectors hold the same choice in the same way. -/
def Resembles (live stored : Selector P V) : Prop :=
  stored.value = live.value ∧ stored.kind = live.kind

instance (live stored : Selector P V) : Decidable (live.Resembles stored) :=
  inferInstanceAs (Decidable (_ ∧ _))

/-- A live selector after another look at what is stored. -/
def rereadAs (live stored : Selector P V) : Selector P V :=
  if live.Resembles stored then live else stored

/-- The selector after a step, if there is one. -/
def movedIf (selector : Selector P V) : Option (SelectorStep V) → Selector P V
  | none => selector
  | some next => selector.moved next

def storeAfter {σ : Type} [PreferenceStore σ] (selector : Selector P V) (store : σ) :
    Option (SelectorStep V) → σ
  | none => store
  | some next => (selector.step store next).2

def leavesIf (selector : Selector P V) (stored : StoredChoice) :
    Option (SelectorStep V) → StoredChoice
  | none => stored
  | some next => selector.leaves stored next

omit [Keyed V] in
theorem screen_movedIf (selector : Selector P V) (next? : Option (SelectorStep V)) :
    (selector.movedIf next?).screen = selector.screen := by
  cases next? with
  | none => rfl
  | some next => exact screen_moved selector next

omit [Keyed V] in
theorem policy_movedIf (selector : Selector P V) (next? : Option (SelectorStep V)) :
    (selector.movedIf next?).policy = selector.policy := by
  cases next? with
  | none => rfl
  | some next => exact policy_moved selector next

/-- The selector after a message, and what it is read from: what is kept in the store, or what is left
after dropping. -/
def onStores {σ : Type} [PreferenceStore σ] (live : Selector P V) (policy : P) (screen : String)
    (count : Nat) (kept dropped : σ) : Occasion V → Selector P V
  | .step next? => live.movedIf next?
  | .reread => live.rereadAs (ofStore policy kept screen count).1
  | .reset => (ofStore policy dropped screen count).1

/-- What a message leaves of a selector: it has taken the step of the message, or it has been read
from some store. -/
def Succeeds (σ : Type) [PreferenceStore σ] (after before : Selector P V)
    (next? : Option (SelectorStep V)) (policy : P) (screen : String) (count : Nat) : Prop :=
  after = before.movedIf next? ∨
    next? = none ∧ ∃ seen : σ, after = (ofStore policy seen screen count).1

theorem Succeeds.origin {σ : Type} [PreferenceStore σ] {after before : Selector P V}
    {next? : Option (SelectorStep V)} {policy : P} {screen : String} {count : Nat}
    (succeeds : Succeeds σ after before next? policy screen count)
    (sameScreen : before.screen = screen) (samePolicy : before.policy = policy) :
    after.screen = screen ∧ after.policy = policy := by
  rcases succeeds with rfl | ⟨-, seen, rfl⟩
  · constructor
    · rw [screen_movedIf, sameScreen]
    · rw [policy_movedIf, samePolicy]
  · exact ⟨rfl, rfl⟩

section
variable {σ : Type} [PreferenceStore σ] [WorkingStore σ] {store : σ}

theorem works_storeAfter (works : Works store) (selector : Selector P V)
    (next? : Option (SelectorStep V)) : Works (selector.storeAfter store next?) := by
  cases next? with
  | none => exact works
  | some next => exact works_step works selector next

theorem storedChoice_storeAfter (works : Works store) (selector : Selector P V)
    (next? : Option (SelectorStep V)) :
    storedChoice P (selector.storeAfter store next?) selector.screen =
      selector.leavesIf (storedChoice P store selector.screen) next? := by
  cases next? with
  | none => rfl
  | some next => exact storedChoice_step works selector next

theorem storedChoice_storeAfter_of_unrelated {Q W : Type} [Recommender Q W]
    (unrelated : Unrelated Q P) (works : Works store) (selector : Selector P V)
    (next? : Option (SelectorStep V)) :
    storedChoice Q (selector.storeAfter store next?) selector.screen =
      storedChoice Q store selector.screen := by
  cases next? with
  | none => rfl
  | some next => exact storedChoice_step_of_unrelated unrelated works selector next

end

end Selector

namespace Screen

variable {R : Type} [Record R] {α : Type} [Coordinate α]

/-- Both selectors are those of the screen's name and configuration. -/
structure Rooted (screen : Screen R α) : Prop where
  modeScreen : screen.viewMode.screen = screen.name
  modePolicy : screen.viewMode.policy = screen.config.viewMode
  densityScreen : screen.density.screen = screen.name
  densityPolicy : screen.density.policy = screen.config.density

section
variable {σ : Type} [PreferenceStore σ]

theorem rooted_new (name : String) (sort : SortState (Record.SortField R)) (config : Settings α)
    (store : σ) : (new name sort config store : Screen R α × σ).1.Rooted :=
  ⟨rfl, rfl, rfl, rfl⟩

/-- The change is one of the screen's own preferences. -/
def Owns (screen : Screen R α) (change : Change) : Prop :=
  (screen.name ++ ".").toList.isPrefixOf change.key.toList = true

instance (screen : Screen R α) (change : Change) : Decidable (screen.Owns change) :=
  inferInstanceAs (Decidable (_ = _))

/-- The message makes the screen read its store again, without dropping what is there. -/
def rereads (screen : Screen R α) : Message R α → Bool
  | .preferenceChanged change => decide (screen.Owns change)
  | _ => false

/-- How a message reaches a selector that would take this step with it. -/
def occasion {V : Type} (screen : Screen R α) (message : Message R α)
    (next? : Option (SelectorStep V)) : Occasion V :=
  if message.isReset then .reset
  else if screen.rereads message then .reread
  else .step next?

theorem receiveChange_of_own {screen : Screen R α} {change : Change} (own : screen.Owns change)
    (store : σ) :
    screen.receiveChange change store =
      let count := screen.collection.length
      let viewMode := ofStore screen.config.viewMode store screen.name count
      let density := ofStore screen.config.density viewMode.2 screen.name count
      ({ screen with
          viewMode := screen.viewMode.rereadAs viewMode.1
          density := screen.density.rereadAs density.1
          viewport :=
            if screen.density.Resembles density.1 then screen.viewport
            else screen.viewport.withEstimate (estimateFor R density.1.value) },
        density.2) := by
  unfold Owns at own
  unfold receiveChange
  rw [if_pos own]
  dsimp only
  generalize ofStore screen.config.viewMode store screen.name screen.collection.length = viewMode
  generalize ofStore screen.config.density viewMode.2 screen.name screen.collection.length =
    density
  simp only [rereadAs, Resembles]
  by_cases sameMode : viewMode.1.value = screen.viewMode.value ∧
      viewMode.1.kind = screen.viewMode.kind
  · by_cases sameDensity : density.1.value = screen.density.value ∧
        density.1.kind = screen.density.kind
    · simp only [sameMode, sameDensity, and_self, if_true]
    · simp only [sameMode, sameDensity, and_self, if_true, if_false]
  · by_cases sameDensity : density.1.value = screen.density.value ∧
        density.1.kind = screen.density.kind
    · simp only [sameMode, sameDensity, and_self, if_true, if_false]
    · simp only [sameMode, sameDensity, if_false]

theorem receiveChange_of_foreign {screen : Screen R α} {change : Change}
    (foreign : ¬ screen.Owns change) (store : σ) :
    screen.receiveChange change store = (screen, store) := by
  unfold Owns at foreign
  unfold receiveChange
  rw [if_neg foreign]

theorem frame_update (screen : Screen R α) (message : Message R α) (store : σ) :
    (screen.update message store).screen.name = screen.name ∧
      (screen.update message store).screen.config = screen.config ∧
      (screen.update message store).screen.collection =
        heldAfter screen.collection message := by
  cases message with
  | searchChanged text =>
      simp only [update]
      split <;> exact ⟨rfl, rfl, rfl⟩
  | preferenceChanged change =>
      by_cases own : screen.Owns change
      · rw [update, quiet, receiveChange_of_own own]
        exact ⟨rfl, rfl, rfl⟩
      · rw [update, quiet, receiveChange_of_foreign own]
        exact ⟨rfl, rfl, rfl⟩
  | _ => exact ⟨rfl, rfl, rfl⟩

@[simp]
theorem name_update (screen : Screen R α) (message : Message R α) (store : σ) :
    (screen.update message store).screen.name = screen.name :=
  (frame_update screen message store).1

@[simp]
theorem config_update (screen : Screen R α) (message : Message R α) (store : σ) :
    (screen.update message store).screen.config = screen.config :=
  (frame_update screen message store).2.1

theorem collection_update (screen : Screen R α) (message : Message R α) (store : σ) :
    (screen.update message store).screen.collection = heldAfter screen.collection message :=
  (frame_update screen message store).2.2

/-- How both selectors come out of a message.  The density is read after the view mode. -/
theorem selectors_update (screen : Screen R α) (message : Message R α) (store : σ) :
    let count := screen.collection.length
    let dropped := forgetScreen store screen.name preferenceNames
    let past (held : σ) : σ :=
      (ofStore screen.config.viewMode held screen.name count : Selector ViewModePolicy ViewMode × σ).2
    (screen.update message store).screen.viewMode =
        screen.viewMode.onStores screen.config.viewMode screen.name count store dropped
          (screen.occasion message message.modeStep?) ∧
      (screen.update message store).screen.density =
        screen.density.onStores screen.config.density screen.name count (past store)
          (past dropped) (screen.occasion message message.densityStep?) := by
  intro count dropped past
  cases message with
  | collectionUpdated records =>
      exact ⟨congrArg Prod.fst (resize_snd screen.viewMode records.length store),
        congrArg Prod.fst (resize_snd screen.density records.length _)⟩
  | preferenceChanged change =>
      by_cases own : screen.Owns change
      · simp only [update, quiet, receiveChange_of_own own, occasion, Message.isReset, rereads, own,
          decide_true, if_true, Bool.false_eq_true, if_false, onStores]
        exact ⟨rfl, rfl⟩
      · simp only [update, quiet, receiveChange_of_foreign own, occasion, Message.isReset, rereads,
          own, decide_false, Bool.false_eq_true, if_false, onStores]
        exact ⟨rfl, rfl⟩
  | resetPreferences => exact ⟨rfl, rfl⟩
  | searchChanged text => simp only [update]; split <;> exact ⟨rfl, rfl⟩
  | _ => exact ⟨rfl, rfl⟩

/-- What the steps of the two selectors leave is all that most messages do to a store. -/
theorem store_update (screen : Screen R α) {message : Message R α} (store : σ)
    (unread : ∀ change, message ≠ .preferenceChanged change)
    (unreset : message ≠ .resetPreferences) :
    (screen.update message store).store =
      screen.density.storeAfter (screen.viewMode.storeAfter store message.modeStep?)
        message.densityStep? := by
  cases message with
  | preferenceChanged change => exact absurd rfl (unread change)
  | resetPreferences => exact absurd rfl unreset
  | searchChanged text => simp only [Screen.update]; split <;> rfl
  | _ => rfl

end

/-! ## In a store that works -/

section
variable {σ : Type} [PreferenceStore σ] [WorkingStore σ] {store : σ}

/-- The preferences of this kind are among those that a screen keeps. -/
def Keeps (P : Type) {V : Type} [Recommender P V] : Prop :=
  Recommender.preferenceName P ∈ preferenceNames ∧
    Recommender.preferenceName P ++ "_auto" ∈ preferenceNames

theorem ne_version_of_mem {name : String} (kept : name ∈ preferenceNames) :
    name ≠ "prefs_version" := by
  rintro rfl
  revert kept
  decide

theorem storedChoice_upgradeScreen {P V : Type} [Recommender P V] (keeps : Keeps P)
    (works : Works store) (screen : String) :
    storedChoice P (upgradeScreen store screen preferenceNames).2 screen =
      if Outdated store screen then ⟨none, none⟩ else storedChoice P store screen := by
  obtain ⟨choice, flag⟩ := keeps
  simp only [storedChoice, content_upgradeScreen works, flagKey, choiceKey, versionKey,
    screenKey_inj, ne_version_of_mem choice, ne_version_of_mem flag, if_false, List.mem_map,
    exists_eq_right, choice, flag, and_true]
  split <;> rfl

theorem works_new (works : Works store) (name : String)
    (sort : SortState (Record.SortField R)) (config : Settings α) :
    Works (new name sort config store : Screen R α × σ).2 :=
  works_ofStore (works_ofStore (works_upgradeScreen works name preferenceNames)
    config.viewMode name 0) config.density name 0

theorem storedChoice_new {P V : Type} [Recommender P V] (keeps : Keeps P) (works : Works store)
    (name : String) (sort : SortState (Record.SortField R)) (config : Settings α) :
    storedChoice P (new name sort config store : Screen R α × σ).2 name =
      if Outdated store name then ⟨none, none⟩ else storedChoice P store name := by
  have upgraded := works_upgradeScreen works name preferenceNames
  have read := works_ofStore upgraded config.viewMode name 0
  have unchanged : content (new name sort config store : Screen R α × σ).2 =
      content (upgradeScreen store name preferenceNames).2 :=
    (content_ofStore read config.density name 0).trans (content_ofStore upgraded _ _ _)
  rw [← storedChoice_upgradeScreen keeps works]
  simp only [storedChoice, unchanged]

theorem content_update_preferenceChanged (works : Works store) (screen : Screen R α)
    (change : Change) :
    Works (screen.update (.preferenceChanged change) store).store ∧
      content (screen.update (.preferenceChanged change) store).store = content store := by
  by_cases own : screen.Owns change
  · have read := works_ofStore works screen.config.viewMode screen.name screen.collection.length
    simp only [update, quiet, receiveChange_of_own own]
    refine ⟨works_ofStore read _ _ _, ?_⟩
    rw [content_ofStore read, content_ofStore works]
  · simp only [update, quiet, receiveChange_of_foreign own]
    exact ⟨works, trivial⟩

theorem content_update_resetPreferences (works : Works store) (screen : Screen R α) :
    Works (screen.update .resetPreferences store).store ∧
      ∀ key, content (screen.update .resetPreferences store).store key =
        if key ∈ preferenceNames.map (screenKey screen.name) then none else content store key := by
  have forgot := works_forgetScreen works screen.name preferenceNames
  have read := works_ofStore forgot screen.config.viewMode screen.name screen.collection.length
  refine ⟨works_ofStore read screen.config.density screen.name screen.collection.length, ?_⟩
  intro key
  have unchanged : content (screen.update .resetPreferences store).store =
      content (forgetScreen store screen.name preferenceNames) :=
    (content_ofStore read screen.config.density _ screen.collection.length).trans
      (content_ofStore forgot _ _ _)
  rw [unchanged, content_forgetScreen works]

theorem storedChoice_resetPreferences {P V : Type} [Recommender P V] (keeps : Keeps P)
    (works : Works store) (screen : Screen R α) :
    storedChoice P (screen.update .resetPreferences store).store screen.name = ⟨none, none⟩ := by
  obtain ⟨choice, flag⟩ := keeps
  simp only [storedChoice, (content_update_resetPreferences works screen).2, flagKey, choiceKey,
    List.mem_map, screenKey_inj, exists_eq_right, choice, flag, if_true]

theorem works_update (works : Works store) (screen : Screen R α) (message : Message R α) :
    Works (screen.update message store).store := by
  cases message with
  | preferenceChanged change => exact (content_update_preferenceChanged works screen change).1
  | resetPreferences => exact (content_update_resetPreferences works screen).1
  | _ =>
      rw [store_update screen store (by simp) (by simp)]
      exact works_storeAfter (works_storeAfter works _ _) _ _

end

end Screen

/-! ## Either choice -/

open Screen

/-- A choice that every screen holds: its view mode, or its density. -/
class ScreenChoice (P : Type) (V : outParam Type) [Recommender P V] [Keyed V] [DecidableEq V] where
  held {R : Type} [Record R] {α : Type} : Screen R α → Selector P V
  policyOf {α : Type} : Settings α → P
  /-- The step that the choice takes with a message. -/
  step? {R : Type} [Record R] {α : Type} : Message R α → Option (SelectorStep V)
  /-- The store as a screen leaves it that has come to read this choice. -/
  found {α σ : Type} [PreferenceStore σ] : Settings α → String → Nat → σ → σ
  keeps : Keeps P
  found_spec {α σ : Type} [PreferenceStore σ] [WorkingStore σ] (config : Settings α)
    (name : String) (count : Nat) {store : σ} : Works store →
      Works (found config name count store) ∧ content (found config name count store) = content store
  rooted_held {R : Type} [Record R] {α : Type} {screen : Screen R α} : screen.Rooted →
    (held screen).screen = screen.name ∧ (held screen).policy = policyOf screen.config
  step?_preferenceChanged {R : Type} [Record R] {α : Type} (change : Change) :
    step? (.preferenceChanged change : Message R α) = none
  step?_resetPreferences {R : Type} [Record R] {α : Type} :
    step? (.resetPreferences : Message R α) = none
  countFrom_step? {R : Type} [Record R] {α : Type} (collection : List R) (message : Message R α) :
    SelectorStep.countFrom collection.length (step? message) =
      (heldAfter collection message).length
  held_new {R : Type} [Record R] {α : Type} [Coordinate α] {σ : Type} [PreferenceStore σ]
    (name : String) (sort : SortState (Record.SortField R)) (config : Settings α) (store : σ) :
      held (new name sort config store : Screen R α × σ).1 =
        (ofStore (policyOf config)
          (found config name 0 (upgradeScreen store name preferenceNames).2) name 0).1
  held_update {R : Type} [Record R] {α : Type} [Coordinate α] {σ : Type} [PreferenceStore σ]
    (screen : Screen R α) (message : Message R α) (store : σ) :
      held (screen.update message store).screen =
        (held screen).onStores (policyOf screen.config) screen.name screen.collection.length
          (found screen.config screen.name screen.collection.length store)
          (found screen.config screen.name screen.collection.length
            (forgetScreen store screen.name preferenceNames))
          (screen.occasion message (step? message))
  /-- The step of the other choice leaves alone what is stored of this one. -/
  stored_steps {R : Type} [Record R] {α σ : Type} [PreferenceStore σ] [WorkingStore σ]
    {screen : Screen R α} (message : Message R α) {store : σ} : Works store → screen.Rooted →
      storedChoice P
          (screen.density.storeAfter (screen.viewMode.storeAfter store message.modeStep?)
            message.densityStep?) screen.name =
        (held screen).leavesIf (storedChoice P store screen.name) (step? message)

instance : ScreenChoice ViewModePolicy ViewMode where
  held := Screen.viewMode
  policyOf := Settings.viewMode
  step? := Message.modeStep?
  found _ _ _ store := store
  keeps := ⟨by decide, by decide⟩
  found_spec _ _ _ _ works := ⟨works, rfl⟩
  rooted_held rooted := ⟨rooted.modeScreen, rooted.modePolicy⟩
  step?_preferenceChanged _ := rfl
  step?_resetPreferences := rfl
  countFrom_step? _ message := by cases message <;> rfl
  held_new _ _ _ _ := rfl
  held_update screen message store := (selectors_update screen message store).1
  stored_steps message _ works rooted := by
    rw [← rooted.densityScreen,
      storedChoice_storeAfter_of_unrelated unrelated_mode_density (works_storeAfter works _ _),
      rooted.densityScreen, ← rooted.modeScreen, storedChoice_storeAfter works]

instance : ScreenChoice DensityPolicy Density where
  held := Screen.density
  policyOf := Settings.density
  step? := Message.densityStep?
  found config name count store :=
    (ofStore config.viewMode store name count : Selector ViewModePolicy ViewMode × _).2
  keeps := ⟨by decide, by decide⟩
  found_spec _ _ _ _ works := ⟨works_ofStore works _ _ _, content_ofStore works _ _ _⟩
  rooted_held rooted := ⟨rooted.densityScreen, rooted.densityPolicy⟩
  step?_preferenceChanged _ := rfl
  step?_resetPreferences := rfl
  countFrom_step? _ message := by cases message <;> rfl
  held_new _ _ _ _ := rfl
  held_update screen message store := (selectors_update screen message store).2
  stored_steps message _ works rooted := by
    rw [← rooted.densityScreen, storedChoice_storeAfter (works_storeAfter works _ _),
      rooted.densityScreen, ← rooted.modeScreen,
      storedChoice_storeAfter_of_unrelated unrelated_mode_density.symm works]

namespace Screen

open ScreenChoice

variable {P V : Type} [Recommender P V] [Keyed V] [DecidableEq V] [ScreenChoice P V]
variable {R : Type} [Record R] {α : Type} [Coordinate α]

omit [Coordinate α] in
theorem step?_of_rereads {screen : Screen R α} {message : Message R α}
    (again : screen.rereads message = true) : step? P message = none := by
  cases message with
  | preferenceChanged change => exact step?_preferenceChanged change
  | _ => cases again

omit [Coordinate α] in
theorem step?_of_isReset {message : Message R α} (reset : message.isReset = true) :
    step? P message = none := by
  cases message with
  | resetPreferences => exact step?_resetPreferences
  | _ => cases reset

section
variable {σ : Type} [PreferenceStore σ]

variable (P) in
theorem succeeds_update (screen : Screen R α) (message : Message R α) (store : σ) :
    Succeeds σ (held (screen.update message store).screen : Selector P V) (held screen)
      (step? P message) (policyOf screen.config) screen.name screen.collection.length := by
  rw [held_update, occasion]
  split
  case isTrue reset =>
      exact .inr ⟨step?_of_isReset reset, _, rfl⟩
  case isFalse =>
      split
      case isFalse => exact .inl rfl
      case isTrue again =>
          have stepless : step? P message = none := step?_of_rereads again
          simp only [onStores, rereadAs]
          split
          · left
            rw [stepless]
            rfl
          · exact .inr ⟨stepless, _, rfl⟩

variable (P) in
theorem origin_update {screen : Screen R α} (rooted : screen.Rooted) (message : Message R α)
    (store : σ) :
    let later := (screen.update message store).screen
    (held later : Selector P V).screen = later.name ∧
      (held later : Selector P V).policy = policyOf later.config := by
  intro later
  obtain ⟨name, policy⟩ := rooted_held (P := P) rooted
  rw [name_update, config_update]
  exact (succeeds_update P screen message store).origin name policy

theorem Rooted.update {screen : Screen R α} (rooted : screen.Rooted) (message : Message R α)
    (store : σ) : (screen.update message store).screen.Rooted := by
  obtain ⟨modeScreen, modePolicy⟩ := origin_update ViewModePolicy rooted message store
  obtain ⟨densityScreen, densityPolicy⟩ := origin_update DensityPolicy rooted message store
  exact ⟨modeScreen, modePolicy, densityScreen, densityPolicy⟩

end

/-- What a message leaves of a stored choice: nothing, or what the step of the selector does to
it. -/
theorem storedChoice_update {σ : Type} [PreferenceStore σ] [WorkingStore σ] {store : σ}
    (works : Works store) {screen : Screen R α} (rooted : screen.Rooted) (message : Message R α) :
    storedChoice P (screen.update message store).store screen.name =
      if message.isReset then ⟨none, none⟩
      else
        (held screen : Selector P V).leavesIf (storedChoice P store screen.name)
          (step? P message) := by
  cases message with
  | preferenceChanged change =>
      have stepless : step? P (.preferenceChanged change : Message R α) = none :=
        step?_preferenceChanged change
      rw [stepless]
      simp only [storedChoice, (content_update_preferenceChanged works screen change).2]
      rfl
  | resetPreferences => exact storedChoice_resetPreferences keeps works screen
  | _ =>
      rw [store_update screen store (by simp) (by simp), stored_steps _ works rooted]
      rfl

end Screen

end AdaptiveView

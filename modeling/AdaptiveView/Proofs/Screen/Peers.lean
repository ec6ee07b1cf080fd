import AdaptiveView.Account
import AdaptiveView.Proofs.Screen.Choices

/-!
# Screens that share a store

Several screens of one kind are open on one store, and their messages interleave in any way.  Of a
change that another screen has stored a screen hears late or never, and until then an automatic
selector of its own goes on following the size of its collection.

What it stores then is a choice without a flag.  So a flag that tells of a pin stands beside the
choice of the user's last pin only as long as no automatic selector of another screen has followed a
size since; the main statement says what stands there in every case.
-/

set_option autoImplicit false

namespace AdaptiveView

open WorkingStore Selector

/-! ## What was stored, and why -/

/-- A choice that a selector stored. -/
inductive Written (V : Type) where
  /-- The user pinned it. -/
  | chosen (value : V)
  /-- An automatic selector changed to it with the size of the collection. -/
  | followed (value : V)

/-- What a step of a selector stores.  A release is left out: it takes the pin away. -/
def Selector.written? {P V : Type} [Recommender P V] [DecidableEq V] (selector : Selector P V) :
    SelectorStep V → Option (Written V)
  | .pin value => some (.chosen value)
  | .resize count =>
      if selector.Follows count then
        some (.followed (Recommender.recommend selector.policy count))
      else none
  | .release => none

/-- The last choice of the user, and what automatic selectors made of it since. -/
structure Latest (V : Type) where
  chosen : Option V
  followed : Option V

namespace Latest

variable {V : Type}

def start : Latest V := ⟨none, none⟩

def after (latest : Latest V) : Written V → Latest V
  | .chosen value => ⟨some value, none⟩
  | .followed value => { latest with followed := some value }

def afterIf (latest : Latest V) : Option (Written V) → Latest V
  | none => latest
  | some written => latest.after written

/-- A stored flag that tells of a pin is the flag of the last choice, and beside it stands what has
become of that choice. -/
def Explains [Keyed V] (latest : Latest V) (stored : StoredChoice) : Prop :=
  stored.flag = some "false" →
    ∃ value, latest.chosen = some value ∧
      stored.choice = some (Keyed.key (latest.followed.getD value))

/-- No automatic selector has turned the last choice into another one. -/
def Stands (latest : Latest V) : Prop :=
  ∀ value, latest.followed = some value → latest.chosen = some value

variable [Keyed V] {P : Type} [Recommender P V] [DecidableEq V]

theorem Explains.step {latest : Latest V} {stored : StoredChoice}
    (explains : latest.Explains stored) (selector : Selector P V) (next : SelectorStep V) :
    (latest.afterIf (selector.written? next)).Explains (selector.leaves stored next) := by
  cases next with
  | pin value =>
      intro _
      exact ⟨value, rfl, rfl⟩
  | resize count =>
      by_cases follows : selector.Follows count
      · intro flag
        obtain ⟨value, chosen, -⟩ := explains flag
        refine ⟨value, ?_, ?_⟩
        · simpa [written?, follows, afterIf, after] using chosen
        · simp [written?, leaves, follows, afterIf, after]
      · simpa [written?, leaves, follows, afterIf] using explains
  | release =>
      intro flag
      simp [leaves] at flag

theorem Explains.stepIf {latest : Latest V} {stored : StoredChoice}
    (explains : latest.Explains stored) (selector : Selector P V)
    (next? : Option (SelectorStep V)) :
    (latest.afterIf (next?.bind selector.written?)).Explains
      (selector.leavesIf stored next?) := by
  cases next? with
  | none => exact explains
  | some next => exact explains.step selector next

omit [DecidableEq V] in
theorem explains_of_nothing (latest : Latest V) : latest.Explains ⟨none, none⟩ := by
  intro flag
  simp at flag

omit [DecidableEq V] in
/-- A store that forgets, for whatever reason, leaves nothing to explain. -/
theorem Explains.forgetIf {latest : Latest V} {stored : StoredChoice}
    (explains : latest.Explains stored) (condition : Prop) [Decidable condition] :
    latest.Explains (if condition then ⟨none, none⟩ else stored) := by
  split
  · exact explains_of_nothing latest
  · exact explains

omit [DecidableEq V] in
theorem Explains.choice_iff [LawfulKeyed V] {latest : Latest V} {stored : StoredChoice}
    (explains : latest.Explains stored) (flag : stored.flag = some "false") :
    ∃ value, latest.chosen = some value ∧
      (stored.choice = some (Keyed.key value) ↔ latest.Stands) := by
  obtain ⟨value, chosen, choice⟩ := explains flag
  refine ⟨value, chosen, ?_⟩
  rw [choice, Stands, chosen, Option.some.injEq]
  cases followed : latest.followed with
  | none => simp
  | some other =>
      constructor
      · intro sameKey later same
        have decoded := congrArg (Keyed.ofKey? : String → Option V) sameKey
        simp only [Option.getD_some, LawfulKeyed.ofKey?_key, Option.some.injEq] at decoded
        rw [← decoded, ← Option.some.inj same]
      · intro stands
        rw [Option.getD_some, ← Option.some.inj (stands other rfl)]

end Latest

/-! ## Interleaved runs -/

section Runs
variable (R : Type) [Record R] [Listing R] (α σ : Type) [Coordinate α] [PreferenceStore σ]

/-- Screens of one kind and the store they share. -/
structure Peers where
  screens : List (Screen R α)
  store : σ

inductive PeerEvent where
  | opens (config : Settings α)
  | hears (index : Nat) (message : Message R α)

end Runs

structure History where
  mode : Latest ViewMode
  density : Latest Density

def History.start : History := ⟨.start, .start⟩

namespace Peers

variable {R : Type} [Record R] [Listing R] {α σ : Type} [Coordinate α] [PreferenceStore σ]

def after (peers : Peers R α σ) : PeerEvent R α → Peers R α σ
  | .opens config =>
      let (screen, store) := Screen.ofListing R config peers.store
      ⟨peers.screens ++ [screen], store⟩
  | .hears index message =>
      match peers.screens[index]? with
      | none => peers
      | some screen =>
          let turn := screen.update message peers.store
          ⟨peers.screens.set index turn.screen, turn.store⟩

def run (peers : Peers R α σ) : List (PeerEvent R α) → Peers R α σ
  | [] => peers
  | event :: rest => (peers.after event).run rest

def recorded (peers : Peers R α σ) (history : History) : PeerEvent R α → History
  | .opens _ => history
  | .hears index message =>
      match peers.screens[index]? with
      | none => history
      | some screen =>
          { mode := history.mode.afterIf (message.modeStep?.bind screen.viewMode.written?)
            density := history.density.afterIf (message.densityStep?.bind screen.density.written?) }

def history (peers : Peers R α σ) (earlier : History) : List (PeerEvent R α) → History
  | [] => earlier
  | event :: rest => (peers.after event).history (peers.recorded earlier event) rest

variable [WorkingStore σ]

/-- The store works, all screens are of one name, and the history explains what is stored. -/
structure Accounted (peers : Peers R α σ) (history : History) : Prop where
  works : Works peers.store
  rooted : ∀ screen ∈ peers.screens, screen.Rooted
  named : ∀ screen ∈ peers.screens, screen.name = Listing.screenName R
  mode : history.mode.Explains
    (storedChoice ViewModePolicy peers.store (Listing.screenName R))
  density : history.density.Explains
    (storedChoice DensityPolicy peers.store (Listing.screenName R))

theorem Accounted.after {peers : Peers R α σ} {history : History}
    (accounted : peers.Accounted history) (event : PeerEvent R α) :
    (peers.after event).Accounted (peers.recorded history event) := by
  obtain ⟨works, rooted, named, mode, density⟩ := accounted
  cases event with
  | opens config =>
      have member : ∀ screen ∈ (peers.after (.opens config)).screens,
          screen ∈ peers.screens ∨ screen = (Screen.ofListing R config peers.store).1 := by
        intro screen inside
        simpa [Peers.after] using inside
      have opened : Works (peers.after (.opens config)).store :=
        Screen.works_new works (Listing.screenName R) (Listing.initialSort (R := R)) config
      refine ⟨opened, ?_, ?_, ?_, ?_⟩
      · intro screen inside
        rcases member screen inside with old | rfl
        · exact rooted screen old
        · exact Screen.rooted_new _ _ _ _
      · intro screen inside
        rcases member screen inside with old | rfl
        · exact named screen old
        · rfl
      · have stored : storedChoice ViewModePolicy (peers.after (.opens config)).store
            (Listing.screenName R) = _ :=
          Screen.storedChoice_new ScreenChoice.keeps works _ (Listing.initialSort (R := R)) config
        rw [stored]
        exact mode.forgetIf _
      · have stored : storedChoice DensityPolicy (peers.after (.opens config)).store
            (Listing.screenName R) = _ :=
          Screen.storedChoice_new ScreenChoice.keeps works _ (Listing.initialSort (R := R)) config
        rw [stored]
        exact density.forgetIf _
  | hears index message =>
      cases present : peers.screens[index]? with
      | none =>
          have ignored : peers.after (.hears index message) = peers := by
            simp [Peers.after, present]
          have unrecorded : peers.recorded history (.hears index message) = history := by
            simp [Peers.recorded, present]
          rw [ignored, unrecorded]
          exact ⟨works, rooted, named, mode, density⟩
      | some screen =>
          have member : screen ∈ peers.screens := List.mem_of_getElem? present
          have root := rooted screen member
          have name := named screen member
          have next : peers.after (.hears index message) =
              ⟨peers.screens.set index (screen.update message peers.store).screen,
                (screen.update message peers.store).store⟩ := by
            simp [Peers.after, present]
          have record : peers.recorded history (.hears index message) =
              { mode := history.mode.afterIf
                  (message.modeStep?.bind screen.viewMode.written?)
                density := history.density.afterIf
                  (message.densityStep?.bind screen.density.written?) } := by
            simp [Peers.recorded, present]
          rw [next, record]
          refine ⟨Screen.works_update works screen message, ?_, ?_, ?_, ?_⟩
          · intro other inside
            rcases List.mem_or_eq_of_mem_set inside with old | rfl
            · exact rooted other old
            · exact root.update message peers.store
          · intro other inside
            rcases List.mem_or_eq_of_mem_set inside with old | rfl
            · exact named other old
            · rw [Screen.name_update, name]
          · rw [← name, Screen.storedChoice_update (P := ViewModePolicy) works root, name]
            exact (mode.stepIf screen.viewMode message.modeStep?).forgetIf _
          · rw [← name, Screen.storedChoice_update (P := DensityPolicy) works root, name]
            exact (density.stepIf screen.density message.densityStep?).forgetIf _

theorem Accounted.run {peers : Peers R α σ} {history : History}
    (accounted : peers.Accounted history) (events : List (PeerEvent R α)) :
    (peers.run events).Accounted (peers.history history events) := by
  induction events generalizing peers history with
  | nil => exact accounted
  | cons event rest ih => exact ih (accounted.after event)

/-- In every run of screens that share a store without preferences: where the stored flag tells of
a pin, some screen has been told to pin, and the stored choice is that of the last pin just when no
automatic selector has followed a size to another one since. -/
theorem stored_pin_iff_stands {store : σ} (works : Works store)
    (blank : ∀ name ∈ Screen.preferenceNames,
      content store (screenKey (Listing.screenName R) name) = none)
    (events : List (PeerEvent R α)) :
    let opened : Peers R α σ := ⟨[], store⟩
    let final := opened.run events
    let history := opened.history .start events
    let mode := storedChoice ViewModePolicy final.store (Listing.screenName R)
    let density := storedChoice DensityPolicy final.store (Listing.screenName R)
    (mode.flag = some "false" →
        ∃ value, history.mode.chosen = some value ∧
          (mode.choice = some value.key ↔ history.mode.Stands)) ∧
      (density.flag = some "false" →
        ∃ value, history.density.chosen = some value ∧
          (density.choice = some value.key ↔ history.density.Stands)) := by
  intro opened final history mode density
  have unpinned {P V : Type} [Recommender P V] (keeps : Screen.Keeps P) :
      storedChoice P store (Listing.screenName R) = ⟨none, none⟩ := by
    rw [storedChoice, flagKey, choiceKey, blank _ keeps.1, blank _ keeps.2]
  have accounted : opened.Accounted .start := by
    refine ⟨works, by simp [opened], by simp [opened], ?_, ?_⟩
    · rw [unpinned (P := ViewModePolicy) ScreenChoice.keeps]
      exact Latest.explains_of_nothing _
    · rw [unpinned (P := DensityPolicy) ScreenChoice.keeps]
      exact Latest.explains_of_nothing _
  have explained : final.Accounted history := accounted.run events
  exact ⟨explained.mode.choice_iff, explained.density.choice_iff⟩

/-! Two screens of accounts with a bound so low that one account asks for another mode. -/

def sharedSettings : Settings Float :=
  { Settings.standard with viewMode := ⟨0, 1, 2⟩ }

def soleAccount : Account where
  uid := "a"
  email := "a@example.org"
  provider := .imap
  protocol := "imap"
  status := .active
  syncEnabled := true
  lastSyncAt := none
  lastSyncStatus := none
  lastSyncError := none
  totalEmails := none
  unreadCount := none
  createdAt := none

/-- The first screen pins, and the second hears of it before its collection arrives. -/
def informedRun : List (PeerEvent Account Float) :=
  [.opens sharedSettings, .opens sharedSettings, .hears 0 (.selectViewMode .grouped),
   .hears 1 (.preferenceChanged ⟨"accounts.view_mode_auto", some "false"⟩),
   .hears 1 (.collectionUpdated [soleAccount])]

/-- The same without the notice. -/
def uninformedRun : List (PeerEvent Account Float) :=
  [.opens sharedSettings, .opens sharedSettings, .hears 0 (.selectViewMode .grouped),
   .hears 1 (.collectionUpdated [soleAccount])]

theorem informed_pin_stands :
    let opened : Peers Account Float MemoryStore := ⟨[], .new⟩
    (storedChoice ViewModePolicy (opened.run informedRun).store "accounts").flag =
        some "false" ∧
      (opened.history .start informedRun).mode.Stands := by
  intro opened
  have works : Works MemoryStore.new := trivial
  have blank : ∀ name ∈ Screen.preferenceNames,
      content MemoryStore.new (screenKey (Listing.screenName Account) name) = none :=
    fun _ _ => rfl
  have flag : (storedChoice ViewModePolicy (opened.run informedRun).store "accounts").flag =
      some "false" := by decide
  obtain ⟨value, chosen, standing⟩ :=
    (stored_pin_iff_stands works blank informedRun).1 flag
  have picked : (opened.history .start informedRun).mode.chosen = some .grouped := by decide
  have grouped : value = .grouped := Option.some.inj (chosen.symm.trans picked)
  refine ⟨flag, standing.mp ?_⟩
  rw [grouped]
  decide

/-- The automatic selector of the second screen overwrites the pinned choice and not the flag. -/
theorem uninformed_pin_overwritten :
    let opened : Peers Account Float MemoryStore := ⟨[], .new⟩
    storedChoice ViewModePolicy (opened.run uninformedRun).store "accounts" =
        ⟨some "false", some ViewMode.virtualized.key⟩ ∧
      (opened.history .start uninformedRun).mode.chosen = some .grouped := by
  decide

end Peers

end AdaptiveView

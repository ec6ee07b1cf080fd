import AdaptiveView.Proofs.Preference.Breaking
import AdaptiveView.Proofs.Screen.Current
import AdaptiveView.Proofs.Screen.Footprint
import AdaptiveView.Screen.Plan

/-!
# A store that breaks under a screen

Two screens are opened alike on equal stores, and the same happens to both.  One store works; the other
breaks at some point after the screen was opened.  Each screen hears of the changes that its own store
has reported, each at the same point for both.

A screen writes without looking, so what it writes in vain is not missed.  But what it reads in vain it
takes for a choice that nobody made.  So the two differ from the first message on with which they read a
pin that the broken store does not give, or with which the other screen alone reads something new.
-/

set_option autoImplicit false

namespace AdaptiveView

open AdaptiveView.Calendar
open WorkingStore Selector

namespace Selector

variable {P V : Type} [Recommender P V] [Keyed V]

theorem restored_of_auto (policy : P) (screen : String) (count : Nat) {stored : StoredChoice}
    (auto : (restored policy screen count stored : Selector P V).kind = .auto) :
    (restored policy screen count stored : Selector P V) =
      restored policy screen count ⟨none, none⟩ := by
  by_cases flag : stored.flag = some "false"
  · cases choice : (stored.choice.bind Keyed.ofKey? : Option V) with
    | none => exact restored_of_damaged policy screen count ⟨flag, choice⟩
    | some value =>
        rw [restored_of_pinned policy screen count flag choice] at auto
        cases auto
  · exact restored_of_flag_ne policy screen count flag

/-- Where nothing is pinned it does not matter whether it can be read. -/
theorem ite_restored_nothing {policy : P} {screen : String} {count : Nat} {stored : StoredChoice}
    {readable : Prop} [Decidable readable]
    (pins : (restored policy screen count stored : Selector P V).kind = .pinned → readable) :
    (if readable then restored policy screen count stored
      else restored policy screen count ⟨none, none⟩ : Selector P V) =
        restored policy screen count stored := by
  by_cases here : readable
  · exact if_pos here
  · rw [if_neg here]
    symm
    apply restored_of_auto
    cases kind : (restored policy screen count stored : Selector P V).kind with
    | auto => rfl
    | pinned => exact absurd (pins kind) here

omit [Recommender P V] [Keyed V] in
theorem kind_rereadAs [DecidableEq V] (live stored : Selector P V) :
    (live.rereadAs stored).kind = stored.kind := by
  unfold rereadAs
  split
  case isTrue same => exact same.2.symm
  case isFalse => rfl

omit [Recommender P V] [Keyed V] in
theorem resembles_of_rereadAs [DecidableEq V] {live stored : Selector P V}
    (same : (live.rereadAs stored).Resembles live) : live.Resembles stored := by
  unfold rereadAs at same
  split at same
  case isTrue resembles => exact resembles
  case isFalse => exact ⟨same.1.symm, same.2.symm⟩

variable {σ τ : Type} [PreferenceStore σ] [WorkingStore σ] [PreferenceStore τ] [BreakingStore τ]
  {store : σ} {other : τ} {left : Nat}

theorem shadows_ofStore (shadows : Shadows left store other) (policy : P) (screen : String)
    (count : Nat) :
    Shadows (left - 2) (ofStore policy store screen count : Selector P V × σ).2
      (ofStore policy other screen count : Selector P V × τ).2 := by
  rw [ofStore_snd, ofStore_snd]
  exact shadows.accessed (readings P screen)

/-- A selector needs two accesses to be read.  With fewer of them it is read as if nothing were
stored. -/
theorem ofStore_fst_of_shadows (shadows : Shadows left store other) (policy : P) (screen : String)
    (count : Nat) :
    (ofStore policy other screen count : Selector P V × τ).1 =
      if 2 ≤ left then (ofStore policy store screen count : Selector P V × σ).1
      else restored policy screen count ⟨none, none⟩ := by
  have flag := shadows.read (flagKey P screen)
  have choice := (shadows.access (.read (flagKey P screen))).read (choiceKey P screen)
  have texts {υ : Type} [PreferenceStore υ] (held : υ) :
      (ofStore policy held screen count : Selector P V × υ).1 =
        restored policy screen count
          ⟨(PreferenceStore.read held (flagKey P screen)).1,
            (PreferenceStore.read (StoreAccess.on held (.read (flagKey P screen)))
              (choiceKey P screen)).1⟩ := rfl
  by_cases enough : 2 ≤ left
  · rw [if_pos (by omega)] at flag
    rw [if_pos (by omega)] at choice
    rw [if_pos enough, texts, texts, flag, choice]
  · rw [if_neg (by omega)] at choice
    rw [if_neg enough, texts, choice]
    apply restored_of_auto
    simp [restored, restore]

end Selector

namespace Screen

variable {R : Type} [Record R] {α : Type}

theorem reading_of_shadows {σ τ : Type} [PreferenceStore σ] [WorkingStore σ] [PreferenceStore τ]
    [BreakingStore τ] {store : σ} {other : τ} {left : Nat} (shadows : Shadows left store other)
    (screen : Screen R α) :
    screen.reading other =
      let count := screen.collection.length
      (if 2 ≤ left then (screen.reading store).1
        else restored screen.config.viewMode screen.name count ⟨none, none⟩,
      if 4 ≤ left then (screen.reading store).2
        else restored screen.config.density screen.name count ⟨none, none⟩) := by
  have later := shadows_ofStore shadows screen.config.viewMode screen.name
    screen.collection.length
  have mode := ofStore_fst_of_shadows shadows screen.config.viewMode screen.name
    screen.collection.length
  have density := ofStore_fst_of_shadows later screen.config.density screen.name
    screen.collection.length
  have both : 2 ≤ left - 2 ↔ 4 ≤ left := by omega
  simp only [both] at density
  exact Prod.ext mode density

theorem reading_eq_of_shadows {σ τ : Type} [PreferenceStore σ] [WorkingStore σ]
    [PreferenceStore τ] [BreakingStore τ] {store : σ} {other : τ} {left : Nat}
    (shadows : Shadows left store other) (screen : Screen R α)
    (mode : (screen.reading store).1.kind = .pinned → 2 ≤ left)
    (density : (screen.reading store).2.kind = .pinned → 4 ≤ left) :
    screen.reading store = screen.reading other := by
  rw [reading_of_works shadows.works] at mode density
  rw [reading_of_shadows shadows, reading_of_works shadows.works]
  exact Prod.ext (ite_restored_nothing mode).symm (ite_restored_nothing density).symm

variable [Coordinate α]

section
variable {σ : Type} [PreferenceStore σ]

theorem selectors_update_of_rereads {screen : Screen R α} {message : Message R α}
    (again : screen.rereads message = true) (store : σ) :
    let later := (screen.update message store).screen
    later.viewMode = screen.viewMode.rereadAs (screen.reading store).1 ∧
      later.density = screen.density.rereadAs (screen.reading store).2 := by
  cases message with
  | preferenceChanged change =>
      have own : screen.Owns change := of_decide_eq_true again
      rw [update, quiet, receiveChange_of_own own]
      exact ⟨rfl, rfl⟩
  | _ => cases again

omit [Coordinate α] in
theorem upToDate_iff_reading [WorkingStore σ] {store : σ} (works : Works store)
    (screen : Screen R α) :
    screen.UpToDate store ↔ screen.viewMode.Resembles (screen.reading store).1 ∧
      screen.density.Resembles (screen.reading store).2 := by
  rw [reading_of_works works, UpToDate, ofStore_fst works, ofStore_fst works]

theorem update_of_upToDate [WorkingStore σ] {store : σ} (works : Works store) {screen : Screen R α}
    (upToDate : screen.UpToDate store) (change : Change) :
    (screen.update (.preferenceChanged change) store).screen = screen := by
  by_cases own : screen.Owns change
  · obtain ⟨mode, density⟩ := (upToDate_iff_reading works screen).mp upToDate
    simp only [reading] at mode density
    simp only [update, quiet, receiveChange_of_own own, rereadAs_of_resembles mode,
      rereadAs_of_resembles density, density, if_true]
  · simp only [update, quiet, receiveChange_of_foreign own]

end

end Screen

/-! ## Runs -/

inductive RelayEvent (R : Type) [Record R] (α : Type) where
  | hears (message : Message R α)
  /-- The screen hears of the change that its store has reported at this position, if there is one. -/
  | relays (position : Nat)

section
variable {R : Type} [Record R] {α σ : Type} [PreferenceStore σ]

def RelayEvent.message? (event : RelayEvent R α) (store : σ) : Option (Message R α) :=
  match event with
  | .hears message => some message
  | .relays position => (reported store)[position]?.map .preferenceChanged

namespace Turn

/-- How many accesses the screen makes to its store with an event. -/
def spends (turn : Turn R α σ) (event : RelayEvent R α) : Nat :=
  match event.message? turn.store with
  | none => 0
  | some message => (turn.screen.accesses message).length

/-- So many accesses are enough to read what is pinned. -/
def ReadsPins (left : Nat) (turn : Turn R α σ) : Prop :=
  let read := turn.screen.reading turn.store
  (read.1.kind = .pinned → 2 ≤ left) ∧ (read.2.kind = .pinned → 4 ≤ left)

instance (left : Nat) (turn : Turn R α σ) : Decidable (turn.ReadsPins left) :=
  inferInstanceAs (Decidable (_ ∧ _))

variable [Coordinate α]

def hear (turn : Turn R α σ) (message : Message R α) : Turn R α σ :=
  let next := turn.screen.update message turn.store
  { next with intents := turn.intents ++ next.intents }

def after (turn : Turn R α σ) (event : RelayEvent R α) : Turn R α σ :=
  match event.message? turn.store with
  | none => turn
  | some message => turn.hear message

def run (turn : Turn R α σ) : List (RelayEvent R α) → Turn R α σ
  | [] => turn
  | event :: rest => (turn.after event).run rest

variable {τ : Type} [PreferenceStore τ]

/-- Neither plans nor intents tell which screen is which. -/
structure LooksLike (failing : Turn R α τ) (sound : Turn R α σ) : Prop where
  plans : ∀ now, failing.screen.plan now = sound.screen.plan now
  intents : failing.intents = sound.intents

omit [Coordinate α] in
/-- The event does not tell the screens apart.  If both hear of a change of a preference, then what is
pinned must be read by both; if the store that breaks has not reported it, then it must be no news. -/
def Indifferent (left : Nat) (sound : Turn R α σ) (failing : Turn R α τ)
    (event : RelayEvent R α) : Prop :=
  match event.message? sound.store, event.message? failing.store with
  | none, _ => True
  | some message, none => sound.screen.rereads message = true → sound.screen.UpToDate sound.store
  | some message, some _ => sound.screen.rereads message = true → sound.ReadsPins left

instance (left : Nat) (sound : Turn R α σ) (failing : Turn R α τ) (event : RelayEvent R α) :
    Decidable (sound.Indifferent left failing event) := by
  unfold Indifferent
  split <;> infer_instance

/-- No event of a run tells the screens apart, given how many accesses the failing store is still going
to answer. -/
def Unnoticed (left : Nat) (sound : Turn R α σ) (failing : Turn R α τ) :
    List (RelayEvent R α) → Prop
  | [] => True
  | event :: rest =>
      sound.Indifferent left failing event ∧
        (sound.after event).Unnoticed (left - failing.spends event) (failing.after event) rest

instance decidableUnnoticed (left : Nat) (sound : Turn R α σ) (failing : Turn R α τ) :
    (events : List (RelayEvent R α)) → Decidable (sound.Unnoticed left failing events)
  | [] => .isTrue trivial
  | event :: rest =>
      have := decidableUnnoticed (left - failing.spends event) (sound.after event)
        (failing.after event) rest
      inferInstanceAs (Decidable (_ ∧ _))

end Turn

end

/-! ## Two runs -/

namespace Outage

open Turn

variable {R : Type} [Record R] {α σ τ : Type} [PreferenceStore σ] [WorkingStore σ]
  [PreferenceStore τ] [BreakingStore τ] {left : Nat} {sound : Turn R α σ} {failing : Turn R α τ}

/-- The two runs have not come apart, and the failing store answers so many more accesses. -/
structure InStep (left : Nat) (sound : Turn R α σ) (failing : Turn R α τ) : Prop where
  screen : failing.screen = sound.screen
  intents : failing.intents = sound.intents
  shadows : Shadows left sound.store failing.store

/-- What the failing store has reported, the other has. -/
theorem InStep.message?_of_some (inStep : InStep left sound failing) {event : RelayEvent R α}
    {message : Message R α} (told : event.message? failing.store = some message) :
    event.message? sound.store = some message := by
  cases event with
  | hears message => exact told
  | relays position =>
      obtain ⟨change, here, rfl⟩ := Option.map_eq_some_iff.mp told
      obtain ⟨more, grown⟩ := inStep.shadows.reports
      have early : position < (reported failing.store).length :=
        (List.getElem?_eq_some_iff.mp here).1
      simp only [RelayEvent.message?, ← grown, List.getElem?_append_left early, here,
        Option.map_some]

theorem InStep.eq_zero_of_untold (inStep : InStep left sound failing) {event : RelayEvent R α}
    (differs : event.message? failing.store ≠ event.message? sound.store) : left = 0 := by
  cases left with
  | zero => rfl
  | succ left =>
      exfalso
      apply differs
      cases event with
      | hears message => rfl
      | relays position =>
          rw [RelayEvent.message?, RelayEvent.message?, inStep.shadows.alike (Nat.succ_pos left)]

/-- A reset reads what it has just dropped, so it does not matter whether it can read. -/
theorem InStep.reading?_eq (inStep : InStep left sound failing) {message : Message R α}
    (reads : sound.screen.rereads message = true → sound.ReadsPins left) :
    sound.screen.reading? message sound.store = sound.screen.reading? message failing.store := by
  have shadows := inStep.shadows
  cases message with
  | preferenceChanged change =>
      by_cases own : sound.screen.Owns change
      · obtain ⟨mode, density⟩ := reads (decide_eq_true own)
        simp only [Screen.reading?, Screen.reading_eq_of_shadows shadows _ mode density]
      · simp only [Screen.reading?, own, if_false]
  | resetPreferences =>
      have cleared := shadows.accessed (Screen.preferenceNames.map fun preference =>
        .remove (screenKey sound.screen.name preference))
      rw [← accessed_removals, ← accessed_removals] at cleared
      have empty := Screen.reading_of_works cleared.works sound.screen
      simp only [Screen.storedChoice_forgetScreen ScreenChoice.keeps shadows.works] at empty
      have same := Screen.reading_eq_of_shadows cleared sound.screen
        (by simp [empty, restored, restore]) (by simp [empty, restored, restore])
      simp only [Screen.reading?, same]
  | _ => rfl

variable [Coordinate α]

theorem InStep.hear (inStep : InStep left sound failing) {message : Message R α}
    (reads : sound.screen.rereads message = true → sound.ReadsPins left) :
    InStep (left - (failing.screen.accesses message).length) (sound.hear message)
      (failing.hear message) := by
  have screens := Screen.update_congr sound.screen message (inStep.reading?_eq reads)
  have sent := Screen.intents_update_congr sound.screen message sound.store failing.store
  refine ⟨?_, ?_, ?_⟩
  · simp only [Turn.hear, inStep.screen, screens]
  · simp only [Turn.hear, inStep.screen, inStep.intents, sent]
  · simp only [Turn.hear, inStep.screen, Screen.store_update_eq_accessed]
    exact inStep.shadows.accessed _

/-- The failing store has broken without reporting a change that the other screen hears of. -/
theorem InStep.hear_alone (inStep : InStep 0 sound failing) {change : Change}
    (noNews : sound.screen.rereads (.preferenceChanged change) = true →
      sound.screen.UpToDate sound.store) :
    InStep 0 (sound.hear (.preferenceChanged change)) failing := by
  have shadows := inStep.shadows
  have same : (sound.screen.update (.preferenceChanged change) sound.store).screen =
      sound.screen := by
    by_cases own : sound.screen.Owns change
    · exact Screen.update_of_upToDate shadows.works (noNews (decide_eq_true own)) change
    · simp only [Screen.update, Screen.quiet, Screen.receiveChange_of_foreign own]
  refine ⟨?_, ?_, ?_⟩
  · exact inStep.screen.trans same.symm
  · simp only [Turn.hear, Screen.update, Screen.quiet, List.append_nil, inStep.intents]
  · simp only [Turn.hear, Screen.store_update_eq_accessed]
    exact shadows.alone _

theorem InStep.after (inStep : InStep left sound failing) {event : RelayEvent R α}
    (indifferent : sound.Indifferent left failing event) :
    InStep (left - failing.spends event) (sound.after event) (failing.after event) := by
  rw [Turn.Indifferent] at indifferent
  cases told : event.message? failing.store with
  | some message =>
      have heard := inStep.message?_of_some told
      rw [heard, told] at indifferent
      simp only [Turn.after, Turn.spends, heard, told]
      exact inStep.hear indifferent
  | none =>
      cases heard : event.message? sound.store with
      | none =>
          simp only [Turn.after, Turn.spends, heard, told]
          exact inStep
      | some message =>
          rw [heard, told] at indifferent
          have broken : left = 0 := inStep.eq_zero_of_untold (by rw [heard, told]; simp)
          subst broken
          simp only [Turn.after, Turn.spends, heard, told]
          cases event with
          | hears message => cases told
          | relays position =>
              obtain ⟨change, -, rfl⟩ := Option.map_eq_some_iff.mp heard
              exact inStep.hear_alone indifferent

theorem InStep.looksLike (inStep : InStep left sound failing) : failing.LooksLike sound := by
  refine ⟨?_, inStep.intents⟩
  intro now
  rw [inStep.screen]

omit [PreferenceStore σ] [WorkingStore σ] [PreferenceStore τ] [BreakingStore τ] in
/-- A plan tells both choices and whether they are automatic. -/
theorem resembles_of_looksLike (looksLike : failing.LooksLike sound) :
    sound.screen.viewMode.Resembles failing.screen.viewMode ∧
      sound.screen.density.Resembles failing.screen.density := by
  have now : Instant := ⟨⟨1970, 1, 1⟩, 0, 0, by decide, by decide⟩
  have kinds {P V : Type} {one other : Selector P V} (same : one.isAuto = other.isAuto) :
      one.kind = other.kind := by
    unfold isAuto at same
    cases here : one.kind <;> cases there : other.kind <;> simp_all
  have plans := looksLike.plans now
  refine ⟨⟨congrArg Plan.viewMode plans, ?_⟩, ⟨congrArg Plan.density plans, ?_⟩⟩
  · exact kinds (congrArg Plan.viewModeAuto plans)
  · exact kinds (congrArg Plan.densityAuto plans)

/-- Where both read and a pin is not read by both, one plan shows it and the other does not. -/
theorem InStep.readsPins (inStep : InStep left sound failing) {message : Message R α}
    (again : sound.screen.rereads message = true)
    (looksLike : (failing.hear message).LooksLike (sound.hear message)) :
    sound.ReadsPins left := by
  obtain ⟨⟨-, mode⟩, ⟨-, density⟩⟩ := resembles_of_looksLike looksLike
  simp only [Turn.hear, inStep.screen, (Screen.selectors_update_of_rereads again _).1,
    (Screen.selectors_update_of_rereads again _).2, kind_rereadAs,
    Screen.reading_of_shadows inStep.shadows] at mode density
  constructor
  · intro pinned
    refine Decidable.byContradiction fun few => ?_
    rw [if_neg few, pinned] at mode
    cases mode
  · intro pinned
    refine Decidable.byContradiction fun few => ?_
    rw [if_neg few, pinned] at density
    cases density

theorem InStep.upToDate (inStep : InStep left sound failing) {message : Message R α}
    (again : sound.screen.rereads message = true)
    (looksLike : failing.LooksLike (sound.hear message)) :
    sound.screen.UpToDate sound.store := by
  obtain ⟨mode, density⟩ := resembles_of_looksLike looksLike
  simp only [Turn.hear, inStep.screen, (Screen.selectors_update_of_rereads again _).1,
    (Screen.selectors_update_of_rereads again _).2] at mode density
  exact (Screen.upToDate_iff_reading inStep.shadows.works sound.screen).mpr
    ⟨resembles_of_rereadAs mode, resembles_of_rereadAs density⟩

theorem InStep.indifferent (inStep : InStep left sound failing) {event : RelayEvent R α}
    (looksLike : (failing.after event).LooksLike (sound.after event)) :
    sound.Indifferent left failing event := by
  rw [Turn.Indifferent]
  cases told : event.message? failing.store with
  | some message =>
      have heard := inStep.message?_of_some told
      simp only [Turn.after, heard, told] at looksLike
      rw [heard]
      intro again
      exact inStep.readsPins again looksLike
  | none =>
      cases heard : event.message? sound.store with
      | none => trivial
      | some message =>
          simp only [Turn.after, heard, told] at looksLike
          intro again
          exact inStep.upToDate again looksLike

theorem InStep.looksLike_iff (inStep : InStep left sound failing) (events : List (RelayEvent R α)) :
    (∀ passed, passed <+: events → (failing.run passed).LooksLike (sound.run passed)) ↔
      sound.Unnoticed left failing events := by
  induction events generalizing left sound failing with
  | nil =>
      constructor
      · intro _
        trivial
      · intro _ passed within
        rw [List.prefix_nil.mp within]
        exact inStep.looksLike
  | cons event rest later =>
      constructor
      · intro always
        have indifferent : sound.Indifferent left failing event :=
          inStep.indifferent (always [event] (by simp))
        refine ⟨indifferent, (later (inStep.after indifferent)).mp ?_⟩
        intro passed within
        exact always (event :: passed) (List.cons_prefix_cons.mpr ⟨rfl, within⟩)
      · rintro ⟨indifferent, unnoticed⟩ passed within
        have next := (later (inStep.after indifferent)).mpr unnoticed
        cases passed with
        | nil => exact inStep.looksLike
        | cons first more =>
            obtain ⟨rfl, further⟩ := List.cons_prefix_cons.mp within
            exact next more further

/-! ## From the opening on -/

/-- How many accesses it takes to open a screen of this name. -/
def openingCost (store : σ) (name : String) : Nat :=
  (Screen.openingAccesses name (PreferenceStore.read store (versionKey name)).1).length

omit [WorkingStore σ] in
theorem openingCost_eq (store : σ) (name : String) :
    openingCost store name = (upgradeAccesses name Screen.preferenceNames
      (PreferenceStore.read store (versionKey name)).1).length + 4 := by
  rw [openingCost, Screen.openingAccesses, List.length_append]
  rfl

theorem inStep_opened {store : σ} {other : τ} {name : String}
    (shadows : Shadows (openingCost store name + left) store other)
    (sort : SortState (Record.SortField R)) (config : Settings α) :
    InStep left (Screen.quiet (Screen.new name sort config store) : Turn R α σ)
      (Screen.quiet (Screen.new name sort config other)) := by
  have cost := openingCost_eq store name
  have version : (PreferenceStore.read other (versionKey name)).1 =
      (PreferenceStore.read store (versionKey name)).1 := by
    rw [shadows.read, if_pos (by omega)]
  have upgraded := shadows.accessed
    (upgradeAccesses name Screen.preferenceNames (PreferenceStore.read store (versionKey name)).1)
  rw [← upgradeScreen_eq_accessed, ← version, ← upgradeScreen_eq_accessed, version] at upgraded
  have read := shadows_ofStore upgraded config.viewMode name 0
  have mode := ofStore_fst_of_shadows upgraded config.viewMode name 0
  have density := ofStore_fst_of_shadows read config.density name 0
  rw [if_pos (by omega)] at mode
  rw [if_pos (by omega)] at density
  refine ⟨(Screen.new_congr mode.symm density.symm).symm, rfl, ?_⟩
  have opened := shadows.accessed
    (Screen.openingAccesses name (PreferenceStore.read store (versionKey name)).1)
  rw [← openingCost, Nat.add_sub_cancel_left] at opened
  simp only [Screen.quiet, Screen.store_new_eq_accessed, version]
  exact opened

/-- A screen looks the same on a store that breaks and on one that works, throughout a run, exactly as
long as none of the run's events tells the two apart. -/
theorem outage_unnoticed_iff {store : σ} {other : τ} {name : String}
    (shadows : Shadows (openingCost store name + left) store other)
    (sort : SortState (Record.SortField R)) (config : Settings α)
    (events : List (RelayEvent R α)) :
    let sound : Turn R α σ := Screen.quiet (Screen.new name sort config store)
    let failing : Turn R α τ := Screen.quiet (Screen.new name sort config other)
    (∀ passed, passed <+: events → (failing.run passed).LooksLike (sound.run passed)) ↔
      sound.Unnoticed left failing events := by
  intro sound failing
  exact (inStep_opened shadows sort config).looksLike_iff events

/-- An empty database that breaks after so many statements. -/
def breakingAfter (count : Nat) : Database :=
  { Database.new with fails := fun number => decide (count ≤ number) }

theorem shadows_breakingAfter (count : Nat) :
    Shadows count Database.new (breakingAfter count) := by
  have sound : Works Database.new := ⟨rfl, fun _ _ => rfl⟩
  have breaks : (breakingAfter count).Breaks count := by
    refine ⟨fun _ => rfl, ?_, .inr ?_⟩
    · intro number _ early
      have before : number < 0 + count := early
      exact decide_eq_false (by omega)
    · intro number late
      have after : 0 + count ≤ number := late
      exact decide_eq_true (by omega)
  exact ⟨sound, breaks, fun _ => rfl, fun _ => rfl, List.prefix_refl _⟩

def accountsOn (db : Database) : Turn Account Float Database :=
  Screen.quiet (Screen.ofListing Account .standard db)

/-- The first change is heard of just before the database breaks.  Then the pin is released, before
that change is heard of again, and of the release the other screen alone hears. -/
def releasedInVain : List (RelayEvent Account Float) :=
  [.hears (.collectionUpdated [Screen.accountWith "a" .active]), .hears (.selectViewMode .grouped),
    .relays 0, .hears .autoViewMode, .relays 0, .relays 3, .hears .selectAllVisible,
    .hears .syncSelected]

theorem releasedInVain_unnoticed :
    let sound := accountsOn Database.new
    let failing := accountsOn (breakingAfter 12)
    (failing.run releasedInVain).intents = [⟨.sync, "a"⟩] ∧
      (reported (failing.run releasedInVain).store).length = 3 ∧
      (reported (sound.run releasedInVain).store).length = 5 ∧
      ∀ passed, passed <+: releasedInVain → (failing.run passed).LooksLike (sound.run passed) := by
  intro sound failing
  have shadows := shadows_breakingAfter (openingCost Database.new "accounts" + 6)
  refine ⟨by decide, by decide, by decide, ?_⟩
  exact (outage_unnoticed_iff shadows Listing.initialSort .standard releasedInVain).mpr (by decide)

/-- The database breaks as soon as the screen is opened.  The view mode is pinned in vain, and then the
screen hears of the version that was stored when it was opened. -/
def pinnedInVain : List (RelayEvent Account Float) :=
  [.hears (.collectionUpdated [Screen.accountWith "a" .active]), .hears (.selectViewMode .grouped),
    .relays 0]

theorem pinnedInVain_noticed :
    let sound := (accountsOn Database.new).run pinnedInVain
    let failing := (accountsOn (breakingAfter 6)).run pinnedInVain
    Shadows (openingCost Database.new "accounts") Database.new (breakingAfter 6) ∧
      (sound.screen.viewMode.kind, sound.screen.viewMode.value) = (.pinned, .grouped) ∧
      (failing.screen.viewMode.kind, failing.screen.viewMode.value) = (.auto, .flat) ∧
      ¬ failing.LooksLike sound := by
  intro sound failing
  have pinned : (sound.screen.viewMode.kind, sound.screen.viewMode.value) = (.pinned, .grouped) := by
    decide
  have unpinned : (failing.screen.viewMode.kind, failing.screen.viewMode.value) =
      (.auto, .flat) := by decide
  refine ⟨shadows_breakingAfter 6, pinned, unpinned, ?_⟩
  intro looksLike
  obtain ⟨⟨-, kind⟩, -⟩ := resembles_of_looksLike looksLike
  have differs : failing.screen.viewMode.kind ≠ sound.screen.viewMode.kind := by decide
  exact differs kind

end Outage

end AdaptiveView

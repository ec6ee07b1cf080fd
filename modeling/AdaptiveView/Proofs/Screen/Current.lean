import AdaptiveView.Proofs.Preference.Reported
import AdaptiveView.Proofs.Screen.Echo

/-!
# Screens that are up to date

A screen is up to date when its two choices are those that the store tells of.  Others may write to the
store at any time, so a message keeps a screen up to date in one of two ways only: it leaves what is
stored as it was, or it changes that and the store reports it under a key that the screen reads from.

The second way is not only the others' doing.  A size that is followed beside a flag that tells of a pin
of nothing stores a choice that the next reading takes for a pin.
-/

set_option autoImplicit false

namespace AdaptiveView

open WorkingStore Selector ScreenChoice

namespace Selector

variable {P V : Type} [Recommender P V] [Keyed V]

theorem agreesWith_restored (policy : P) (screen : String) (count : Nat) (stored : StoredChoice) :
    (restored policy screen count stored : Selector P V).AgreesWith stored := rfl

omit [Keyed V] in
theorem Settled.eq_of_resembles {live stored : Selector P V} {policy : P} {count : Nat}
    (settled : live.Settled policy count) (samePolicy : stored.policy = policy)
    (sameCount : stored.count = count) (sameScreen : stored.screen = live.screen)
    (same : live.Resembles stored) : stored = live := by
  obtain ⟨rfl, rfl, -⟩ := settled
  obtain ⟨value, kind⟩ := same
  obtain ⟨policy, screen, kind', value', count⟩ := stored
  cases live
  simp only at samePolicy sameCount sameScreen value kind
  rw [samePolicy, sameCount, sameScreen, value, kind]

/-- A settled selector agrees if what is read has its choice and its kind. -/
theorem Settled.agreesWith_iff {live : Selector P V} {policy : P} {count : Nat} {screen : String}
    (settled : live.Settled policy count) (sameScreen : live.screen = screen)
    (stored : StoredChoice) :
    live.AgreesWith stored ↔ live.Resembles (restored policy screen count stored) := by
  have here : restored live.policy live.screen live.count stored =
      restored policy screen count stored := by
    rw [settled.samePolicy, settled.heard, sameScreen]
  rw [AgreesWith, here]
  constructor
  · intro same
    rw [same]
    exact ⟨rfl, rfl⟩
  · intro same
    exact settled.eq_of_resembles rfl rfl sameScreen.symm same

variable [DecidableEq V]

theorem AgreesWith.stepIf [LawfulKeyed V] {live : Selector P V} {stored : StoredChoice}
    (agrees : live.AgreesWith stored) (next? : Option (SelectorStep V)) :
    (live.movedIf next?).AgreesWith (live.leavesIf stored next?) ∨
      live.leavesIf stored next? ≠ stored := by
  by_cases damaged : stored.Damaged V
  · cases next? with
    | none => exact .inl agrees
    | some next =>
        cases next with
        | pin value => exact .inl (kept_of_not_resize live stored rfl).1
        | release => exact .inl (kept_of_not_resize live stored rfl).1
        | resize count =>
            by_cases follows : live.Follows count
            · -- the text beside the flag was no choice, and now it is one
              right
              intro same
              have known : (stored.choice.bind Keyed.ofKey? : Option V) =
                  some (Recommender.recommend live.policy count) := by
                rw [← same]
                simp [leavesIf, leaves, follows, LawfulKeyed.ofKey?_key]
              rw [damaged.2] at known
              cases known
            · have dormant : Dormant live stored := ⟨agrees, damaged⟩
              exact .inl (dormant.resize follows).1
  · have kept : Kept live stored := ⟨agrees, damaged⟩
    exact .inl (kept.stepIf next?).1

theorem agreesWith_rereadAs {live : Selector P V} {policy : P} {count : Nat} {screen : String}
    (settled : live.Settled policy count) (sameScreen : live.screen = screen)
    (stored : StoredChoice) :
    (live.rereadAs (restored policy screen count stored)).AgreesWith stored := by
  unfold rereadAs
  split
  case isTrue same => exact (settled.agreesWith_iff sameScreen stored).mpr same
  case isFalse => exact agreesWith_restored policy screen count stored

end Selector

namespace Screen

variable {R : Type} [Record R] {α : Type}

/-- The change is of a text that the screen reads its choices from. -/
def ReadsFrom (screen : Screen R α) (change : Change) : Prop :=
  change.key ∈ preferenceNames.map (screenKey screen.name)

instance (screen : Screen R α) (change : Change) : Decidable (screen.ReadsFrom change) :=
  inferInstanceAs (Decidable (_ ∈ _))

theorem owns_of_readsFrom {screen : Screen R α} {change : Change}
    (reads : screen.ReadsFrom change) : screen.Owns change := by
  obtain ⟨name, -, key⟩ := List.mem_map.mp reads
  have text : change.key.toList = (screen.name ++ ".").toList ++ name.toList := by
    rw [← key, screenKey, String.toList_append]
  unfold Owns
  rw [List.isPrefixOf_iff_prefix, text]
  exact List.prefix_append _ _

/-- With this message the screen reads its choices from the store. -/
def reads (screen : Screen R α) (message : Message R α) : Bool :=
  message.isReset || screen.rereads message

section
variable {σ : Type} [PreferenceStore σ]

/-- Both choices are those that reading the store would give. -/
def UpToDate (screen : Screen R α) (store : σ) : Prop :=
  let count := screen.collection.length
  screen.viewMode.Resembles (ofStore screen.config.viewMode store screen.name count).1 ∧
    screen.density.Resembles (ofStore screen.config.density store screen.name count).1

instance (screen : Screen R α) (store : σ) : Decidable (screen.UpToDate store) :=
  inferInstanceAs (Decidable (_ ∧ _))

end

variable [Coordinate α] {σ : Type} [PreferenceStore σ] [WorkingStore σ] {store : σ}

omit [Coordinate α] in
theorem upToDate_iff (works : Works store) {screen : Screen R α} (steady : screen.Steady) :
    screen.UpToDate store ↔
      screen.viewMode.AgreesWith (storedChoice ViewModePolicy store screen.name) ∧
        screen.density.AgreesWith (storedChoice DensityPolicy store screen.name) := by
  obtain ⟨rooted, modeSettled, densitySettled⟩ := steady
  rw [modeSettled.agreesWith_iff rooted.modeScreen, densitySettled.agreesWith_iff rooted.densityScreen,
    UpToDate, ofStore_fst works, ofStore_fst works]

theorem upToDate_new (works : Works store) (name : String)
    (sort : SortState (Record.SortField R)) (config : Settings α) :
    let opened : Screen R α × σ := new name sort config store
    opened.1.UpToDate opened.2 := by
  intro opened
  have mode : opened.1.viewMode = _ :=
    held_new_of_works (P := ViewModePolicy) works name sort config
  have density : opened.1.density = _ :=
    held_new_of_works (P := DensityPolicy) works name sort config
  refine (upToDate_iff (works_new works name sort config) (steady_new name sort config store)).mpr
    ⟨?_, ?_⟩
  · rw [mode]
    exact agreesWith_restored _ _ _ _
  · rw [density]
    exact agreesWith_restored _ _ _ _

/-! ## One message -/

section
variable {P V : Type} [Recommender P V] [Keyed V] [DecidableEq V] [ScreenChoice P V]

theorem agreesWith_update_of_reads (works : Works store) {screen : Screen R α}
    (rooted : screen.Rooted)
    (settled : (held screen : Selector P V).Settled (policyOf screen.config)
      screen.collection.length)
    {message : Message R α} (reads : screen.reads message = true) :
    let later := screen.update message store
    (held later.screen : Selector P V).AgreesWith
      (storedChoice P later.store later.screen.name) := by
  intro later
  rw [name_update, stored_update works rooted, held_update_of_works works, occasion]
  by_cases reset : message.isReset = true
  · rw [if_pos reset]
    exact agreesWith_restored (policyOf screen.config) screen.name _ _
  · have again : screen.rereads message = true := by
      simpa [Screen.reads, reset] using reads
    rw [if_neg reset, if_pos again]
    exact agreesWith_rereadAs settled (rooted_held rooted).1 _

/-- A message with which a screen does not read leaves a choice in agreement with the store, or else
leaves other texts there. -/
theorem agreesWith_update_or_changed [LawfulKeyed V] (works : Works store) {screen : Screen R α}
    (rooted : screen.Rooted)
    (agrees : (held screen : Selector P V).AgreesWith (storedChoice P store screen.name))
    {message : Message R α} (blind : screen.reads message = false) :
    let later := screen.update message store
    (held later.screen : Selector P V).AgreesWith
        (storedChoice P later.store later.screen.name) ∨
      storedChoice P later.store screen.name ≠ storedChoice P store screen.name := by
  intro later
  obtain ⟨noReset, noReread⟩ := Bool.or_eq_false_iff.mp blind
  have stepOnly : screen.occasion message (step? P message) = .step (step? P message) := by
    simp [occasion, noReset, noReread]
  rw [name_update, stored_update works rooted, held_update_of_works works, stepOnly]
  exact agrees.stepIf (step? P message)

end

theorem upToDate_update_of_reads (works : Works store) {screen : Screen R α}
    (steady : screen.Steady) {message : Message R α} (reads : screen.reads message = true) :
    (screen.update message store).screen.UpToDate (screen.update message store).store := by
  refine (upToDate_iff (works_update works screen message) (steady.update message store)).mpr
    ⟨?_, ?_⟩
  · exact agreesWith_update_of_reads (P := ViewModePolicy) works steady.toRooted
      steady.modeSettled reads
  · exact agreesWith_update_of_reads (P := DensityPolicy) works steady.toRooted
      steady.densitySettled reads

/-! ## What a screen makes a store report -/

omit [Coordinate α] in
theorem tells_ofStore {P V : Type} [Recommender P V] [Keyed V] (works : Works store) (policy : P)
    (name : String) (count : Nat) :
    Tells store (ofStore policy store name count : Selector P V × σ).2 :=
  (tells_read works _).trans (tells_read (works_read _ works) _)

theorem tells_storeAfter {P V : Type} [Recommender P V] [Keyed V] [DecidableEq V]
    (works : Works store) (selector : Selector P V) (next? : Option (SelectorStep V)) :
    Tells store (selector.storeAfter store next?) := by
  have saved (kept : Selector P V) : Tells store (kept.saveTo store) :=
    (tells_write works _ _).trans (tells_write (works_write _ _ works) _ _)
  cases next? with
  | none => exact .refl store
  | some next =>
      cases next with
      | pin value => exact saved _
      | release => exact saved _
      | resize count =>
          simp only [storeAfter, Selector.step, resize_snd]
          split
          · exact tells_write works _ _
          · exact .refl store

theorem tells_new (works : Works store) (name : String)
    (sort : SortState (Record.SortField R)) (config : Settings α) :
    Tells store (new name sort config store : Screen R α × σ).2 := by
  have upgraded := works_upgradeScreen works name preferenceNames
  have read := works_ofStore upgraded config.viewMode name 0
  exact (tells_upgradeScreen works name preferenceNames).trans
    ((tells_ofStore upgraded config.viewMode name 0).trans
      (tells_ofStore read config.density name 0))

theorem tells_update (works : Works store) (screen : Screen R α) (message : Message R α) :
    Tells store (screen.update message store).store := by
  cases message with
  | preferenceChanged change =>
      by_cases own : screen.Owns change
      · simp only [update, quiet, receiveChange_of_own own]
        exact (tells_ofStore works _ _ _).trans (tells_ofStore (works_ofStore works _ _ _) _ _ _)
      · simp only [update, quiet, receiveChange_of_foreign own]
        exact .refl store
  | resetPreferences =>
      have forgot := works_forgetScreen works screen.name preferenceNames
      exact (tells_forgetScreen works screen.name preferenceNames).trans
        ((tells_ofStore forgot screen.config.viewMode screen.name screen.collection.length).trans
          (tells_ofStore (works_ofStore forgot _ _ _) screen.config.density screen.name
            screen.collection.length))
  | _ =>
      rw [store_update screen store (by simp) (by simp)]
      exact (tells_storeAfter works _ _).trans (tells_storeAfter (works_storeAfter works _ _) _ _)

/-- What was reported between two states holds a change that the screen should hear of. -/
def ToldOf (screen : Screen R α) (earlier later : σ) : Prop :=
  ∃ change ∈ (reported later).drop (reported earlier).length, screen.ReadsFrom change

omit [Coordinate α] in
theorem toldOf_of_storedChoice_ne {P V : Type} [Recommender P V] (keeps : Keeps P)
    {earlier later : σ} (tells : Tells earlier later) (screen : Screen R α)
    (changed : storedChoice P later screen.name ≠ storedChoice P earlier screen.name) :
    screen.ToldOf earlier later := by
  have told {name : String} (kept : name ∈ preferenceNames)
      (differs : content later (screenKey screen.name name) ≠
        content earlier (screenKey screen.name name)) : screen.ToldOf earlier later := by
    obtain ⟨change, late, key⟩ := tells.told _ differs
    refine ⟨change, late, ?_⟩
    rw [ReadsFrom, key]
    exact List.mem_map_of_mem kept
  by_cases flag : content later (flagKey P screen.name) = content earlier (flagKey P screen.name)
  · by_cases choice :
        content later (choiceKey P screen.name) = content earlier (choiceKey P screen.name)
    · exact absurd (by rw [storedChoice, storedChoice, flag, choice]) changed
    · exact told keeps.1 choice
  · exact told keeps.2 flag

/-- A message with which the screen does not read keeps it up to date, or else gives it something to
hear of. -/
theorem UpToDate.update_or_toldOf {screen : Screen R α} (upToDate : screen.UpToDate store)
    (works : Works store) (steady : screen.Steady) {message : Message R α}
    (blind : screen.reads message = false) :
    (screen.update message store).screen.UpToDate (screen.update message store).store ∨
      screen.ToldOf store (screen.update message store).store := by
  have tells := tells_update works screen message
  have rooted := steady.toRooted
  obtain ⟨mode, density⟩ := (upToDate_iff works steady).mp upToDate
  rcases agreesWith_update_or_changed (P := ViewModePolicy) works rooted mode blind with
    modeLater | changed
  · rcases agreesWith_update_or_changed (P := DensityPolicy) works rooted density blind with
      densityLater | changed
    · exact .inl ((upToDate_iff (works_update works screen message)
        (steady.update message store)).mpr ⟨modeLater, densityLater⟩)
    · exact .inr (toldOf_of_storedChoice_ne keeps tells screen changed)
  · exact .inr (toldOf_of_storedChoice_ne keeps tells screen changed)

omit [Coordinate α] in
/-- The same for what happens to the store without the screen. -/
theorem UpToDate.later_or_toldOf {screen : Screen R α} {earlier later : σ}
    (upToDate : screen.UpToDate earlier) (works : Works earlier) (worksLater : Works later)
    (steady : screen.Steady) (tells : Tells earlier later) :
    screen.UpToDate later ∨ screen.ToldOf earlier later := by
  obtain ⟨mode, density⟩ := (upToDate_iff works steady).mp upToDate
  by_cases sameMode : storedChoice ViewModePolicy later screen.name =
      storedChoice ViewModePolicy earlier screen.name
  · by_cases sameDensity : storedChoice DensityPolicy later screen.name =
        storedChoice DensityPolicy earlier screen.name
    · left
      refine (upToDate_iff worksLater steady).mpr ⟨?_, ?_⟩
      · rw [sameMode]
        exact mode
      · rw [sameDensity]
        exact density
    · exact .inr (toldOf_of_storedChoice_ne keeps tells screen sameDensity)
  · exact .inr (toldOf_of_storedChoice_ne keeps tells screen sameMode)

end Screen

end AdaptiveView

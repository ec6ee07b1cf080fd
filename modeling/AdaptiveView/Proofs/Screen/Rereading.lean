import AdaptiveView.Proofs.Screen.Choices

/-!
# When a screen reads its store again

A screen opens its two selectors from the store and reads them from there again on two occasions only:
when it hears of a change of one of its own preferences, and when it drops them all.  With every other
message a selector takes a step of its own, or none, and does not look at the store.

In a store that works this gives, for each message, exactly what becomes of a selector and of the two
texts that are stored of it.
-/

set_option autoImplicit false

namespace AdaptiveView

open WorkingStore

namespace Selector

variable {P V : Type} [Recommender P V] [Keyed V] [DecidableEq V]

/-- The selector after a message, given the texts stored of it before. -/
def onOccasion (live : Selector P V) (policy : P) (screen : String) (count : Nat)
    (stored : StoredChoice) : Occasion V → Selector P V
  | .step next? => live.movedIf next?
  | .reread => live.rereadAs (restored policy screen count stored)
  | .reset => restored policy screen count ⟨none, none⟩

/-- The stored texts after a message. -/
def storedOn (live : Selector P V) (stored : StoredChoice) : Occasion V → StoredChoice
  | .step next? => live.leavesIf stored next?
  | .reread => stored
  | .reset => ⟨none, none⟩

omit [Recommender P V] [Keyed V] in
theorem rereadAs_of_resembles {live stored : Selector P V} (same : live.Resembles stored) :
    live.rereadAs stored = live :=
  if_pos same

end Selector

open Selector ScreenChoice

namespace Screen

variable {R : Type} [Record R] {α : Type} [Coordinate α]

section
variable {σ : Type} [PreferenceStore σ] [WorkingStore σ] {store : σ}

omit [Coordinate α] in
theorem storedChoice_forgetScreen {P V : Type} [Recommender P V] (keeps : Keeps P)
    (works : Works store) (name : String) :
    storedChoice P (forgetScreen store name preferenceNames) name = ⟨none, none⟩ := by
  obtain ⟨choice, flag⟩ := keeps
  simp only [storedChoice, content_forgetScreen works, flagKey, choiceKey, List.mem_map,
    screenKey_inj, exists_eq_right, choice, flag, if_true]

/-- Reading another selector first makes no difference. -/
theorem ofStore_fst_of_read {P V Q W : Type} [Recommender P V] [Keyed V] [Recommender Q W]
    [Keyed W] (works : Works store) (policy : P) (other : Q) (name : String) (count : Nat) :
    (ofStore policy (ofStore other store name count : Selector Q W × σ).2 name count :
        Selector P V × σ).1 =
      restored policy name count (storedChoice P store name) := by
  rw [ofStore_fst (works_ofStore works other name count)]
  simp only [storedChoice, content_ofStore works]

omit [Coordinate α] in
theorem content_ofStore_twice {P V Q W : Type} [Recommender P V] [Keyed V] [Recommender Q W]
    [Keyed W] (works : Works store) (policy : P) (other : Q) (name : String) (count : Nat) :
    content (ofStore policy (ofStore other store name count : Selector Q W × σ).2 name count :
        Selector P V × σ).2 = content store :=
  (content_ofStore (works_ofStore works other name count) policy name count).trans
    (content_ofStore works other name count)

end

/-! ## Either choice -/

section
variable {P V : Type} [Recommender P V] [Keyed V] [DecidableEq V] [ScreenChoice P V]
  {σ : Type} [PreferenceStore σ] [WorkingStore σ] {store : σ}

omit [Keyed V] [DecidableEq V] [ScreenChoice P V] in
theorem storedChoice_of_content {first second : σ} (same : content first = content second)
    (name : String) : storedChoice P first name = storedChoice P second name := by
  simp only [storedChoice, same]

/-- A screen is opened with what the store tells of each choice. -/
theorem held_new_of_works (works : Works store) (name : String)
    (sort : SortState (Record.SortField R)) (config : Settings α) :
    let opened : Screen R α × σ := new name sort config store
    (held opened.1 : Selector P V) =
      restored (policyOf config) name 0 (storedChoice P opened.2 name) := by
  intro opened
  have upgraded := works_upgradeScreen works name preferenceNames
  obtain ⟨found, same⟩ := found_spec (P := P) config name 0 upgraded
  have unchanged : content opened.2 = content (upgradeScreen store name preferenceNames).2 :=
    content_ofStore_twice upgraded config.density config.viewMode name 0
  rw [held_new, ofStore_fst found, storedChoice_of_content (unchanged.trans same.symm)]

theorem held_update_of_works (works : Works store) (screen : Screen R α)
    (message : Message R α) :
    (held (screen.update message store).screen : Selector P V) =
      (held screen : Selector P V).onOccasion (policyOf screen.config) screen.name
        screen.collection.length (storedChoice P store screen.name)
        (screen.occasion message (step? P message)) := by
  have forgot := works_forgetScreen works screen.name preferenceNames
  obtain ⟨kept, sameKept⟩ :=
    found_spec (P := P) screen.config screen.name screen.collection.length works
  obtain ⟨dropped, sameDropped⟩ :=
    found_spec (P := P) screen.config screen.name screen.collection.length forgot
  rw [held_update]
  cases screen.occasion message (step? P message) with
  | step next? => rfl
  | reread => rw [onStores, onOccasion, ofStore_fst kept, storedChoice_of_content sameKept]
  | reset =>
      rw [onStores, onOccasion, ofStore_fst dropped, storedChoice_of_content sameDropped,
        storedChoice_forgetScreen keeps works]

/-- Rereading takes no step and drops nothing. -/
theorem stored_update (works : Works store) {screen : Screen R α} (rooted : screen.Rooted)
    (message : Message R α) :
    storedChoice P (screen.update message store).store screen.name =
      (held screen : Selector P V).storedOn (storedChoice P store screen.name)
        (screen.occasion message (step? P message)) := by
  rw [storedChoice_update works rooted, occasion]
  by_cases reset : message.isReset = true
  · rw [if_pos reset, if_pos reset]
    rfl
  · rw [if_neg reset, if_neg reset]
    by_cases again : screen.rereads message = true
    · have stepless : step? P message = none := step?_of_rereads again
      rw [if_pos again, stepless]
      rfl
    · rw [if_neg again]
      rfl

end

end Screen

end AdaptiveView

import AdaptiveView.Proofs.Preference.Working
import AdaptiveView.Selector

/-!
# What a store keeps of a selector

Of each choice a store keeps two texts, the flag and the choice itself.  A step of a selector is
described twice: by the selector it leaves, which no store can influence, and by the two texts it
leaves in a store that works.  All other keys stay as they were.
-/

set_option autoImplicit false

namespace AdaptiveView

open WorkingStore

/-- Choices that can be read back from their own keys. -/
class LawfulKeyed (V : Type) [Keyed V] : Prop where
  ofKey?_key (value : V) : Keyed.ofKey? (Keyed.key value) = some value

instance : LawfulKeyed ViewMode := ⟨ViewMode.ofKey?_key⟩

instance : LawfulKeyed Density := ⟨Density.ofKey?_key⟩

/-- The two texts that are kept of one choice. -/
structure StoredChoice where
  flag : Option String
  choice : Option String
  deriving DecidableEq

namespace StoredChoice

/-- The flag tells of a pin, but no choice stands beside it. -/
def Damaged (V : Type) [Keyed V] (stored : StoredChoice) : Prop :=
  stored.flag = some "false" ∧ (stored.choice.bind Keyed.ofKey? : Option V) = none

instance (V : Type) [Keyed V] [DecidableEq V] (stored : StoredChoice) :
    Decidable (stored.Damaged V) :=
  inferInstanceAs (Decidable (_ ∧ _))

end StoredChoice

/-- What can be done to a selector. -/
inductive SelectorStep (V : Type) where
  | pin (value : V)
  | resize (count : Nat)
  | release

namespace Selector

variable {P V : Type} [Recommender P V] [Keyed V] [DecidableEq V]

/-- The selector that two stored texts stand for. -/
def restored (policy : P) (screen : String) (count : Nat) (stored : StoredChoice) :
    Selector P V :=
  let (kind, value) := restore policy count stored.flag stored.choice
  { policy, screen, kind, value, count }

/-- Another size gives an automatic selector another choice. -/
def Follows (selector : Selector P V) (count : Nat) : Prop :=
  selector.kind = .auto ∧ Recommender.recommend selector.policy count ≠ selector.value

instance (selector : Selector P V) (count : Nat) : Decidable (selector.Follows count) :=
  inferInstanceAs (Decidable (_ ∧ _))

/-- The selector after a step. -/
def moved (selector : Selector P V) : SelectorStep V → Selector P V
  | .pin value => { selector with kind := .pinned, value }
  | .resize count =>
      { selector with
        count
        value :=
          if selector.Follows count then Recommender.recommend selector.policy count
          else selector.value }
  | .release => { selector with kind := .auto, value := selector.recommendation }

/-- The stored texts after a step.  A size that is followed changes one of the two. -/
def leaves (selector : Selector P V) (stored : StoredChoice) : SelectorStep V → StoredChoice
  | .pin value => ⟨some "false", some (Keyed.key value)⟩
  | .resize count =>
      { stored with
        choice :=
          if selector.Follows count then
            some (Keyed.key (Recommender.recommend selector.policy count))
          else stored.choice }
  | .release => ⟨some "true", some (Keyed.key selector.recommendation)⟩

section
variable {σ : Type} [PreferenceStore σ]

/-- One step, with the store that it leaves. -/
def step (selector : Selector P V) (store : σ) : SelectorStep V → Selector P V × σ
  | .pin value => selector.pin value store
  | .resize count => (selector.resize count store).2
  | .release => selector.release store

/-- Steps one after the other. -/
def run (selector : Selector P V) (store : σ) : List (SelectorStep V) → Selector P V × σ
  | [] => (selector, store)
  | first :: rest =>
      let next := selector.step store first
      next.1.run next.2 rest

theorem resize_snd (selector : Selector P V) (count : Nat) (store : σ) :
    (selector.resize count store).2 =
      (selector.moved (.resize count),
        if selector.Follows count then
          save store (choiceKey P selector.screen)
            (Keyed.key (Recommender.recommend selector.policy count))
        else store) := by
  simp only [resize, moved, recommendation]
  by_cases follows : selector.Follows count
  · have changes : ¬ (selector.kind = .pinned ∨
        Recommender.recommend selector.policy count = selector.value) := by
      rintro (pinned | same)
      · simp [follows.1] at pinned
      · exact follows.2 same
    simp only [changes, follows, if_true, if_false]
  · have stays : selector.kind = .pinned ∨
        Recommender.recommend selector.policy count = selector.value := by
      cases kind : selector.kind with
      | pinned => exact .inl rfl
      | auto => exact .inr (by simpa [Follows, kind] using follows)
    simp only [stays, follows, if_true, if_false]

theorem resize_fst (selector : Selector P V) (count : Nat) (store : σ) :
    (selector.resize count store).1 = decide (selector.Follows count) := by
  simp only [resize, recommendation]
  cases kind : selector.kind with
  | pinned => simp [Follows, kind]
  | auto =>
      by_cases same : Recommender.recommend selector.policy count = selector.value <;>
        simp [Follows, kind, same]

/-- What a selector becomes does not depend on the store. -/
theorem step_fst (selector : Selector P V) (store : σ) (next : SelectorStep V) :
    (selector.step store next).1 = selector.moved next := by
  cases next with
  | pin value => rfl
  | resize count => rw [step, resize_snd]
  | release => rfl

end

omit [Keyed V] in
@[simp]
theorem screen_moved (selector : Selector P V) (next : SelectorStep V) :
    (selector.moved next).screen = selector.screen := by
  cases next <;> rfl

omit [Keyed V] in
@[simp]
theorem policy_moved (selector : Selector P V) (next : SelectorStep V) :
    (selector.moved next).policy = selector.policy := by
  cases next <;> rfl

omit [Keyed V] in
theorem moved_resize_of_auto {selector : Selector P V} (auto : selector.kind = .auto)
    (count : Nat) :
    selector.moved (.resize count) =
      { selector with count, value := Recommender.recommend selector.policy count } := by
  by_cases same : Recommender.recommend selector.policy count = selector.value
  · simp [moved, Follows, same]
  · simp [moved, Follows, auto, same]

omit [Keyed V] [DecidableEq V] in
theorem not_follows_of_pinned {selector : Selector P V} (pinned : selector.kind = .pinned)
    (count : Nat) : ¬ selector.Follows count := by
  rintro ⟨auto, -⟩
  simp [pinned] at auto

/-! ## In a store that works -/

section
variable {σ : Type} [PreferenceStore σ] [WorkingStore σ]

/-- What a store keeps of a choice of a screen. -/
def storedChoice (P : Type) {V : Type} [Recommender P V] (store : σ) (screen : String) :
    StoredChoice :=
  ⟨content store (flagKey P screen), content store (choiceKey P screen)⟩

omit [Keyed V] [DecidableEq V] in
theorem choiceKey_ne_flagKey (screen : String) : choiceKey P screen ≠ flagKey P screen := by
  intro same
  have names := congrArg String.length (screenKey_inj.mp same)
  simp at names

omit [DecidableEq V] in
theorem ofStore_fst {store : σ} (works : Works store) (policy : P) (screen : String)
    (count : Nat) :
    (ofStore policy store screen count : Selector P V × σ).1 =
      restored policy screen count (storedChoice P store screen) := by
  have afterFlag := works_read (flagKey P screen) works
  simp only [ofStore, restored, storedChoice, value_read _ works, value_read _ afterFlag,
    content_read _ works]

omit [DecidableEq V] in
theorem works_ofStore {store : σ} (works : Works store) (policy : P) (screen : String)
    (count : Nat) : Works (ofStore policy store screen count : Selector P V × σ).2 :=
  works_read _ (works_read _ works)

omit [DecidableEq V] in
theorem content_ofStore {store : σ} (works : Works store) (policy : P) (screen : String)
    (count : Nat) :
    content (ofStore policy store screen count : Selector P V × σ).2 = content store :=
  (content_read _ (works_read _ works)).trans (content_read _ works)

omit [DecidableEq V] in
theorem works_saveTo {store : σ} (works : Works store) (selector : Selector P V) :
    Works (selector.saveTo store) :=
  works_save (works_save works _ _) _ _

omit [DecidableEq V] in
theorem content_saveTo {store : σ} (works : Works store) (selector : Selector P V)
    (other : String) :
    content (selector.saveTo store) other =
      if other = flagKey P selector.screen then
        some (if selector.isAuto then "true" else "false")
      else if other = choiceKey P selector.screen then some (Keyed.key selector.value)
      else content store other := by
  rw [saveTo, content_save (works_save works _ _), content_save works]

theorem works_step {store : σ} (works : Works store) (selector : Selector P V)
    (next : SelectorStep V) : Works (selector.step store next).2 := by
  cases next with
  | pin value => exact works_saveTo works _
  | resize count =>
      rw [step, resize_snd]
      dsimp only
      split
      · exact works_save works _ _
      · exact works
  | release => exact works_saveTo works _

theorem storedChoice_step {store : σ} (works : Works store) (selector : Selector P V)
    (next : SelectorStep V) :
    storedChoice P (selector.step store next).2 selector.screen =
      selector.leaves (storedChoice P store selector.screen) next := by
  have apart : choiceKey P selector.screen ≠ flagKey P selector.screen :=
    choiceKey_ne_flagKey selector.screen
  cases next with
  | pin value => simp [step, pin, storedChoice, leaves, content_saveTo works, apart, isAuto]
  | resize count =>
      rw [step, resize_snd]
      by_cases follows : selector.Follows count
      · simp [storedChoice, leaves, follows, content_save works, apart.symm]
      · simp [leaves, follows]
  | release =>
      simp [step, release, storedChoice, leaves, content_saveTo works, apart, isAuto]

theorem content_step_of_ne {store : σ} (works : Works store) (selector : Selector P V)
    (next : SelectorStep V) {other : String} (notFlag : other ≠ flagKey P selector.screen)
    (notChoice : other ≠ choiceKey P selector.screen) :
    content (selector.step store next).2 other = content store other := by
  cases next with
  | pin value => simp [step, pin, content_saveTo works, notFlag, notChoice]
  | resize count =>
      rw [step, resize_snd]
      by_cases follows : selector.Follows count
      · simp [follows, content_save works, notChoice]
      · simp [follows]
  | release => simp [step, release, content_saveTo works, notFlag, notChoice]

/-- Preferences that share no key on any screen. -/
def Unrelated (P Q : Type) {V W : Type} [Recommender P V] [Recommender Q W] : Prop :=
  ∀ screen : String,
    (flagKey P screen ≠ flagKey Q screen ∧ flagKey P screen ≠ choiceKey Q screen) ∧
      choiceKey P screen ≠ flagKey Q screen ∧ choiceKey P screen ≠ choiceKey Q screen

theorem unrelated_mode_density : Unrelated ViewModePolicy DensityPolicy := by
  intro screen
  simp only [flagKey, choiceKey, ne_eq, screenKey_inj]
  decide

omit [Keyed V] [DecidableEq V] in
theorem Unrelated.symm {Q W : Type} [Recommender Q W] (unrelated : Unrelated P Q) :
    Unrelated Q P := by
  intro screen
  obtain ⟨⟨flags, flagChoice⟩, choiceFlag, choices⟩ := unrelated screen
  exact ⟨⟨flags.symm, choiceFlag.symm⟩, flagChoice.symm, choices.symm⟩

theorem storedChoice_step_of_unrelated {Q W : Type} [Recommender Q W]
    (unrelated : Unrelated Q P) {store : σ} (works : Works store) (selector : Selector P V)
    (next : SelectorStep V) :
    storedChoice Q (selector.step store next).2 selector.screen =
      storedChoice Q store selector.screen := by
  obtain ⟨⟨flagFlag, flagChoice⟩, choiceFlag, choiceChoice⟩ := unrelated selector.screen
  simp only [storedChoice, content_step_of_ne works selector next flagFlag flagChoice,
    content_step_of_ne works selector next choiceFlag choiceChoice]

end

end Selector

end AdaptiveView

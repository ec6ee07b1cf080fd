import AdaptiveView.Policy
import AdaptiveView.Preference.Store

/-!
# Selectors

A selector holds one choice of a screen, its view mode or its density.  An automatic choice follows
the size of the collection; a pinned one stays as the user made it.  Both are stored: the choice
under the name of the preference, and whether it is automatic under that name with `_auto`.  Only a
stored flag `false` beside a known choice makes a pinned selector.
-/

set_option autoImplicit false

namespace AdaptiveView

inductive SelectorKind where
  /-- The choice is the recommendation for the current size. -/
  | auto
  /-- The choice is the user's. -/
  | pinned
  deriving DecidableEq, Repr

structure Selector (P V : Type) where
  policy : P
  screen : String
  kind : SelectorKind
  value : V
  /-- The size of the collection, as last heard of. -/
  count : Nat

namespace Selector

variable {P V : Type} [Recommender P V] [Keyed V]

def choiceKey (P : Type) {V : Type} [Recommender P V] (screen : String) : String :=
  screenKey screen (Recommender.preferenceName P)

/-- The key of the flag that tells whether the choice is automatic. -/
def flagKey (P : Type) {V : Type} [Recommender P V] (screen : String) : String :=
  screenKey screen (Recommender.preferenceName P ++ "_auto")

/-- The kind and the choice that stored texts stand for. -/
def restore (policy : P) (count : Nat) (flag stored : Option String) : SelectorKind × V :=
  if flag = some "false" then
    match stored.bind Keyed.ofKey? with
    | some value => (.pinned, value)
    | none => (.auto, Recommender.recommend policy count)
  else (.auto, Recommender.recommend policy count)

section
variable {σ : Type} [PreferenceStore σ]

def ofStore (policy : P) (store : σ) (screen : String) (count : Nat) : Selector P V × σ :=
  let (flag, store) := PreferenceStore.read store (flagKey P screen)
  let (stored, store) := PreferenceStore.read store (choiceKey P screen)
  let (kind, value) := restore policy count flag stored
  (⟨policy, screen, kind, value, count⟩, store)

end

def isAuto (selector : Selector P V) : Bool :=
  selector.kind == .auto

def recommendation (selector : Selector P V) : V :=
  Recommender.recommend selector.policy selector.count

section
variable {σ : Type} [PreferenceStore σ]

/-- Stores the choice and then the flag. -/
def saveTo (selector : Selector P V) (store : σ) : σ :=
  let store := save store (choiceKey P selector.screen) (Keyed.key selector.value)
  save store (flagKey P selector.screen) (if selector.isAuto then "true" else "false")

def pin (selector : Selector P V) (value : V) (store : σ) : Selector P V × σ :=
  let pinned := { selector with kind := .pinned, value }
  (pinned, pinned.saveTo store)

def release (selector : Selector P V) (store : σ) : Selector P V × σ :=
  let auto := { selector with kind := .auto, value := selector.recommendation }
  (auto, auto.saveTo store)

/-- Takes note of another size and tells whether the choice changed.  Only then the new choice is
stored; the flag is left as it is. -/
def resize [DecidableEq V] (selector : Selector P V) (count : Nat) (store : σ) :
    Bool × Selector P V × σ :=
  let counted := { selector with count }
  if selector.kind = .pinned ∨ counted.recommendation = selector.value then
    (false, counted, store)
  else
    let value := counted.recommendation
    (true, { counted with value },
      save store (choiceKey P selector.screen) (Keyed.key value))

end

end Selector

end AdaptiveView

import AdaptiveView.Screen.Update

/-!
# Screens that follow their store

A screen is subscribed to the changes of its store and hears of them one at a time, the changes that
it caused itself among them.  Changes that the feed no longer keeps are passed over.
-/

set_option autoImplicit false

namespace AdaptiveView

/-- A screen, the store it shares, and how far it has heard of the changes there. -/
structure Following (R : Type) [Record R] (α σ : Type) where
  screen : Screen R α
  store : σ
  subscription : Subscription

namespace Following

variable {R : Type} [Record R] {α σ : Type} [Coordinate α] [PreferenceStore σ]

def afterMessage (following : Following R α σ) (message : Message R α) : Following R α σ :=
  let turn := following.screen.update message following.store
  { following with screen := turn.screen, store := turn.store }

/-- After the next change that the screen has not heard of, if there is one. -/
def afterChange? (following : Following R α σ) : Option (Following R α σ) :=
  match (PreferenceStore.feed following.store).nextChange following.subscription with
  | (.change c, subscription) =>
      some ({ following with subscription }.afterMessage (.preferenceChanged c))
  | _ => none

def pending (following : Following R α σ) : Nat :=
  (PreferenceStore.feed following.store).changes.size - following.subscription.next

/-- What the screen is after each of at most so many changes. -/
def afterChanges (following : Following R α σ) : Nat → List (Following R α σ)
  | 0 => []
  | count + 1 =>
      match following.afterChange? with
      | none => []
      | some next => next :: next.afterChanges count

/-- The screen after all changes that are pending. -/
def caughtUp (following : Following R α σ) : Following R α σ :=
  ((following.afterChanges following.pending).getLast?).getD following

end Following

end AdaptiveView

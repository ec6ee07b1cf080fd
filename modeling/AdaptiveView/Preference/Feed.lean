/-!
# Change feeds

A store reports each change of its entries once, in order.  A subscriber reads the changes since it
subscribed.  Only the last 64 are kept for it: one that falls further behind is told once how many
it missed and goes on with the oldest that is left.
-/

set_option autoImplicit false

namespace AdaptiveView

/-- A new value of a key, or none where the key was removed. -/
structure Change where
  key : String
  value : Option String
  deriving DecidableEq, Repr

/-- All changes that were ever reported. -/
structure ChangeFeed where
  changes : Array Change
  /-- Nothing will be reported any more. -/
  isClosed : Bool

structure Subscription where
  next : Nat
  deriving DecidableEq, Repr

inductive Received where
  | change (c : Change)
  | lagged (missed : Nat)
  | empty
  | closed
  deriving DecidableEq, Repr

namespace ChangeFeed

/-- How many changes are kept for subscribers. -/
def capacity : Nat := 64

def new : ChangeFeed := ⟨#[], false⟩

def report (feed : ChangeFeed) (key : String) (value : Option String) : ChangeFeed :=
  { feed with changes := feed.changes.push ⟨key, value⟩ }

def close (feed : ChangeFeed) : ChangeFeed :=
  { feed with isClosed := true }

/-- A subscriber to everything from now on. -/
def subscribe (feed : ChangeFeed) : Subscription :=
  ⟨feed.changes.size⟩

/-- The position of the oldest change that is kept. -/
def oldest (feed : ChangeFeed) : Nat :=
  feed.changes.size - capacity

def receive (feed : ChangeFeed) (subscription : Subscription) : Received × Subscription :=
  if subscription.next < feed.oldest then
    (.lagged (feed.oldest - subscription.next), ⟨feed.oldest⟩)
  else
    match feed.changes[subscription.next]? with
    | some c => (.change c, ⟨subscription.next + 1⟩)
    | none => (if feed.isClosed then .closed else .empty, subscription)

/-- The next change for a subscriber that passes over what it missed. -/
def nextChange (feed : ChangeFeed) (subscription : Subscription) : Received × Subscription :=
  match feed.receive subscription with
  | (.lagged _, later) => feed.receive later
  | got => got

end ChangeFeed

end AdaptiveView

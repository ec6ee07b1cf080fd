/-!
# Polling

A poll stream fetches something again and again and yields what it fetched.  A fetch starts when the
stream is asked and its ticker is due.  A fetch that fails yields nothing, and the stream goes on to
the next tick.  Times are in milliseconds.
-/

set_option autoImplicit false

namespace AdaptiveView

/-- What tells a stream when to fetch. -/
structure Ticker where
  period : Nat
  /-- A tick taken no later than this after it was due counts as on time. -/
  grace : Nat
  /-- When the next tick is due; nothing before the first, which is due at once. -/
  due : Option Nat

namespace Ticker

/-- Five milliseconds late is still on time. -/
def standardGrace : Nat := 5

/-- Thirty years of 365 days. -/
def longestPeriod : Nat := 946080000000

def new (period : Nat) : Ticker :=
  ⟨min period longestPeriod, standardGrace, none⟩

/-- The time of the tick for which one waits from `now` on. -/
def tickTime (ticker : Ticker) (now : Nat) : Nat :=
  max now (ticker.due.getD now)

/-- The moment from which the period runs to the next tick: when the tick was due if it was taken on
time, and else when it was taken. -/
def periodStart (ticker : Ticker) (time : Nat) : Nat :=
  match ticker.due with
  | some due => if due + ticker.grace < time then time else due
  | none => time

/-- The ticker after a tick at `time`. -/
def afterTick (ticker : Ticker) (time : Nat) : Ticker :=
  { ticker with due := some (ticker.periodStart time + ticker.period) }

end Ticker

/-- A fetch that is going to be made: how long it takes, and what comes of it. -/
structure Fetch (T : Type) where
  duration : Nat
  result : Option T

structure PollStream (T : Type) where
  ticker : Ticker
  /-- The fetches still to come. -/
  upcoming : List (Fetch T)
  /-- When each fetch so far started, the latest first. -/
  started : List Nat

/-- A message of a stream and when it arrives. -/
structure Arrival (T : Type) where
  time : Nat
  value : T

namespace PollStream

variable {T : Type}

def new (period : Nat) (upcoming : List (Fetch T)) : PollStream T :=
  ⟨.new period, upcoming, []⟩

/-- The next message for a consumer that asks at `now`, if a fetch to come succeeds. -/
def next (ticker : Ticker) (now : Nat) (started : List Nat) :
    List (Fetch T) → Option (Arrival T) × PollStream T
  | [] => (none, ⟨ticker, [], started⟩)
  | fetch :: upcoming =>
      let time := ticker.tickTime now
      let ticker := ticker.afterTick time
      let finish := time + fetch.duration
      match fetch.result with
      | some value => (some ⟨finish, value⟩, ⟨ticker, upcoming, time :: started⟩)
      | none => next ticker finish (time :: started) upcoming

/-- Asks the stream for its next message at the time `now`. -/
def poll (stream : PollStream T) (now : Nat) : Option (Arrival T) × PollStream T :=
  next stream.ticker now stream.started stream.upcoming

/-- The messages of a consumer that asks again as soon as one has arrived, at most `count`, and the
stream after them. -/
def take (stream : PollStream T) (now : Nat) : Nat → List (Arrival T) × PollStream T
  | 0 => ([], stream)
  | count + 1 =>
      match stream.poll now with
      | (none, stream) => ([], stream)
      | (some arrival, stream) =>
          let (later, stream) := stream.take arrival.time count
          (arrival :: later, stream)

end PollStream

end AdaptiveView

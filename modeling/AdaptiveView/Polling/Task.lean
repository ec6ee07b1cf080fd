import AdaptiveView.Polling
import AdaptiveView.Screen.Message

/-!
# Poll streams step by step

A stream does something only while it is polled: it goes as far as it can at that moment, up to a
message if one is to be had, and goes on from there when it is polled again.  Between two messages it
waits for its ticker and for one fetch at a time.  The ticker is made when the stream is polled first.
-/

set_option autoImplicit false

namespace AdaptiveView

/-- Something that ticks. -/
structure Interval (τ : Type) where
  /-- The ticker that begins at a moment. -/
  create : Nat → τ
  /-- The ticker after a tick at a moment, if one is due then. -/
  tick? : τ → Nat → Option τ

/-- Tickers of one period and one grace, known by when the next tick is due. -/
def Ticker.interval (period grace : Nat) : Interval Nat where
  create now := now
  tick? due now :=
    let ticker : Ticker := ⟨period, grace, some due⟩
    if ticker.tickTime now = now then (ticker.afterTick now).due else none

/-- What makes a stream, apart from the fetches: when it makes them, and what it makes of a value. -/
structure PollSource (τ T M : Type) where
  interval : Interval τ
  wrap : T → M

section
variable {τ R α : Type} [Record R]

/-- Collections for a screen. -/
def collectionSource (interval : Interval τ) : PollSource τ (List R) (Message R α) :=
  ⟨interval, .collectionUpdated⟩

/-- Identifiers with an operation in flight, for a screen. -/
def busySource (interval : Interval τ) : PollSource τ (List (Record.Id R)) (Message R α) :=
  ⟨interval, .busyChanged⟩

end

inductive PollEvent (M : Type) where
  | polled
  | ticked
  /-- A fetch has started. -/
  | started
  /-- The fetch has failed. -/
  | failed
  /-- The fetch has succeeded, and this is what the poll answers. -/
  | yielded (message : M)

structure Occurrence (M : Type) where
  time : Nat
  event : PollEvent M

inductive Phase (τ T : Type) where
  /-- Nobody has asked since the last message; there is no ticker before the first poll. -/
  | idle (ticker : Option τ)
  | waiting (ticker : τ)
  /-- The fetch has been under way since a moment. -/
  | fetching (ticker : τ) (since : Nat) (fetch : Fetch T)

structure PollTask (τ T M : Type) where
  phase : Phase τ T
  /-- The fetches still to come. -/
  upcoming : List (Fetch T)
  /-- What has happened, the latest first. -/
  log : List (Occurrence M)

namespace PollTask

variable {τ T M : Type}

def new (fetches : List (Fetch T)) : PollTask τ T M :=
  ⟨.idle none, fetches, []⟩

/-- Goes on with a fetch at the moment `now`; after a failure as `again` says. -/
def proceed (source : PollSource τ T M) (now : Nat) (ticker : τ) (since : Nat) (fetch : Fetch T)
    (upcoming : List (Fetch T)) (log : List (Occurrence M))
    (again : List (Occurrence M) → PollTask τ T M) : PollTask τ T M :=
  if now < since + fetch.duration then ⟨.fetching ticker since fetch, upcoming, log⟩
  else
    match fetch.result with
    | some value =>
        ⟨.idle (some ticker), upcoming, ⟨now, .yielded (source.wrap value)⟩ :: log⟩
    | none => again (⟨now, .failed⟩ :: log)

/-- Goes on at the moment `now` without a fetch under way. -/
def await (source : PollSource τ T M) (now : Nat) (ticker : τ) (log : List (Occurrence M)) :
    List (Fetch T) → PollTask τ T M
  | [] => ⟨.waiting ticker, [], log⟩
  | fetch :: upcoming =>
      match source.interval.tick? ticker now with
      | none => ⟨.waiting ticker, fetch :: upcoming, log⟩
      | some ticker =>
          proceed source now ticker now fetch upcoming
            (⟨now, .started⟩ :: ⟨now, .ticked⟩ :: log)
            fun log => await source now ticker log upcoming

/-- After a poll at the moment `now`. -/
def poll (source : PollSource τ T M) (task : PollTask τ T M) (now : Nat) : PollTask τ T M :=
  let log := ⟨now, .polled⟩ :: task.log
  match task.phase with
  | .idle ticker =>
      await source now (ticker.getD (source.interval.create now)) log task.upcoming
  | .waiting ticker => await source now ticker log task.upcoming
  | .fetching ticker since fetch =>
      proceed source now ticker since fetch task.upcoming log
        fun log => await source now ticker log task.upcoming

end PollTask

/-- What happens to a stream: time passes, or it is polled. -/
inductive Stimulus where
  | wait (duration : Nat)
  | poll

structure PollRun (τ T M : Type) where
  clock : Nat
  task : PollTask τ T M

namespace PollRun

variable {τ T M : Type}

def step (source : PollSource τ T M) (run : PollRun τ T M) : Stimulus → PollRun τ T M
  | .wait duration => { run with clock := run.clock + duration }
  | .poll => { run with task := run.task.poll source run.clock }

def after (source : PollSource τ T M) (run : PollRun τ T M) (schedule : List Stimulus) :
    PollRun τ T M :=
  schedule.foldl (step source) run

end PollRun

end AdaptiveView

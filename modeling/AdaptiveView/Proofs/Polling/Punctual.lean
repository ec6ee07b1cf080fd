import AdaptiveView.Proofs.Polling.Faithful
import AdaptiveView.Proofs.Screen.Aligned

/-!
# Streams that are polled in time

A consumer that waits for its messages polls again whenever the stream can go on.  Such a run of polls
comes to the messages that the stream has for a consumer that asks for them one after the other, at the
same times and after the same fetches.  So what holds of every run holds of these streams; their ticker
counts a tick as in time that is a little late, and the next one then comes so much earlier.
-/

set_option autoImplicit false

namespace AdaptiveView

/-! ## Tickers with a grace -/

theorem Ticker.tick?_interval (period grace due now : Nat) :
    (Ticker.interval period grace).tick? due now =
      if due ≤ now then some ((Ticker.mk period grace (some due)).periodStart now + period)
      else none := by
  have ticks : max now due = now ↔ due ≤ now := by omega
  simp only [Ticker.interval, Ticker.tickTime, Ticker.afterTick, Option.getD_some, ticks]

/-- A tick is at least a period after the one before, less the grace. -/
theorem Ticker.interval_delays (period grace : Nat) :
    (Ticker.interval period grace).Delays (period - grace) where
  atOnce now := by
    rw [tick?_interval]
    exact congrArg Option.isSome (if_pos (Nat.le_refl now))
  later {due next now time} ticks notBefore within := by
    rw [tick?_interval] at ticks ⊢
    split at ticks
    case isFalse => cases ticks
    case isTrue reached =>
      obtain rfl := Option.some.inj ticks
      apply if_neg
      simp only [periodStart]
      split <;> omega

/-! ## Runs that come to the next message -/

section
variable {T M : Type}

/-- The messages and when they arrived, the latest first. -/
def arrivals (log : List (Occurrence M)) : List (Nat × M) :=
  log.filterMap fun occurrence => occurrence.message?.map (occurrence.time, ·)

/-- The same fetches have started and the same messages have arrived. -/
def SameNews (one other : List (Occurrence M)) : Prop :=
  starts one = starts other ∧ arrivals one = arrivals other

theorem PollRun.after_append {τ : Type} (source : PollSource τ T M) (run : PollRun τ T M)
    (one other : List Stimulus) :
    run.after source (one ++ other) = (run.after source one).after source other :=
  List.foldl_append

/-- The source of a ticker with this period and this grace. -/
abbrev tickerSource (period grace : Nat) (wrap : T → M) : PollSource Nat T M :=
  ⟨Ticker.interval period grace, wrap⟩

/-- When the tick after one at `time` is due. -/
def dueAfter (period grace due time : Nat) : Nat :=
  (Ticker.mk period grace (some due)).periodStart time + period

/-- The state in which a fetch has just come back. -/
def landed (source : PollSource Nat T M) (finish due : Nat) (fetch : Fetch T)
    (upcoming : List (Fetch T)) (log : List (Occurrence M)) : PollTask Nat T M :=
  match fetch.result with
  | some value => ⟨.idle (some due), upcoming, ⟨finish, .yielded (source.wrap value)⟩ :: log⟩
  | none => .await source finish due (⟨finish, .failed⟩ :: log) upcoming

/-- A fetch that has started comes back after its time. -/
theorem exists_landing (source : PollSource Nat T M) (now due : Nat) (fetch : Fetch T)
    (upcoming : List (Fetch T)) (log : List (Occurrence M)) :
    ∃ schedule later, SameNews later log ∧
      (PollRun.mk now (.proceed source now due now fetch upcoming log
          fun log => .await source now due log upcoming)).after source schedule =
        ⟨now + fetch.duration, landed source (now + fetch.duration) due fetch upcoming later⟩ := by
  by_cases slow : now < now + fetch.duration
  · refine ⟨[.wait fetch.duration, .poll], ⟨now + fetch.duration, .polled⟩ :: log,
      ⟨rfl, rfl⟩, ?_⟩
    have begun : PollTask.proceed source now due now fetch upcoming log
        (fun log => .await source now due log upcoming) =
          ⟨.fetching due now fetch, upcoming, log⟩ := if_pos slow
    rw [begun]
    simp only [PollRun.after, List.foldl_cons, List.foldl_nil, PollRun.step, PollTask.poll,
      PollTask.proceed, Nat.lt_irrefl, if_false]
    rfl
  · refine ⟨[], log, ⟨rfl, rfl⟩, ?_⟩
    have instant : now + fetch.duration = now := by omega
    simp only [PollRun.after, List.foldl_nil, PollTask.proceed, instant, Nat.lt_irrefl, if_false]
    rfl

/-- The stream comes to its next tick, and starts a fetch. -/
theorem exists_tick (period grace : Nat) (wrap : T → M) (now due : Nat) (fetch : Fetch T)
    (upcoming : List (Fetch T)) (log : List (Occurrence M)) :
    let source := tickerSource period grace wrap
    let time := max now due
    let next := dueAfter period grace due time
    ∃ schedule later, SameNews later log ∧
      (PollRun.mk now (.await source now due log (fetch :: upcoming))).after source schedule =
        ⟨time, .proceed source time next time fetch upcoming
          (⟨time, .started⟩ :: ⟨time, .ticked⟩ :: later)
          fun log => .await source time next log upcoming⟩ := by
  intro source time next
  by_cases reached : due ≤ now
  · have atOnce : time = now := max_eq_left reached
    have ticks : source.interval.tick? due now = some next := by
      rw [Ticker.tick?_interval, if_pos reached]
      exact congrArg (fun time => some (dueAfter period grace due time)) atOnce.symm
    refine ⟨[], log, ⟨rfl, rfl⟩, ?_⟩
    simp only [PollRun.after, List.foldl_nil, PollTask.await, ticks, atOnce]
  · have waits : time = due := max_eq_right (Nat.le_of_not_le reached)
    have early : source.interval.tick? due now = none := by
      rw [Ticker.tick?_interval, if_neg reached]
    have ticks : source.interval.tick? due due = some next := by
      rw [Ticker.tick?_interval, if_pos (Nat.le_refl due)]
      exact congrArg (fun time => some (dueAfter period grace due time)) waits.symm
    have clock : now + (due - now) = due := by omega
    refine ⟨[.wait (due - now), .poll], ⟨due, .polled⟩ :: log, ⟨rfl, rfl⟩, ?_⟩
    simp only [PollRun.after, List.foldl_cons, List.foldl_nil, PollTask.await, early,
      PollRun.step, PollTask.poll, clock, ticks, waits]

/-- A message as it arrives. -/
def Arrival.told (wrap : T → M) (arrival : Arrival T) : Nat × M :=
  (arrival.time, wrap arrival.value)

/-- The run has come to where the stream is when it has answered. -/
structure Replays (wrap : T → M) (period grace : Nat)
    (answer : Option (Arrival T) × PollStream T) (before : List (Occurrence M))
    (run : PollRun Nat T M) : Prop where
  started : starts run.task.log = answer.2.started
  arrived : arrivals run.task.log =
    (answer.1.map (Arrival.told wrap)).toList ++ arrivals before
  idle : ∀ arrival, answer.1 = some arrival → ∃ due,
    answer.2.ticker = ⟨period, grace, some due⟩ ∧ run.clock = arrival.time ∧
      run.task.phase = .idle (some due) ∧ run.task.upcoming = answer.2.upcoming

theorem exists_next (period grace : Nat) (wrap : T → M) (upcoming : List (Fetch T))
    (now due : Nat) (log : List (Occurrence M)) :
    let source := tickerSource period grace wrap
    ∃ schedule, Replays wrap period grace
      (PollStream.next ⟨period, grace, some due⟩ now (starts log) upcoming) log
      ((PollRun.mk now (.await source now due log upcoming)).after source schedule) := by
  intro source
  induction upcoming generalizing now due log with
  | nil =>
      refine ⟨[], rfl, rfl, ?_⟩
      intro arrival answered
      cases answered
  | cons fetch upcoming ih =>
      let time := max now due
      let next := dueAfter period grace due time
      obtain ⟨toTick, later, news, ticked⟩ :=
        exists_tick period grace wrap now due fetch upcoming log
      obtain ⟨toEnd, last, lastNews, ended⟩ := exists_landing source time next fetch upcoming
        (⟨time, .started⟩ :: ⟨time, .ticked⟩ :: later)
      have come : (PollRun.mk now (.await source now due log (fetch :: upcoming))).after source
          (toTick ++ toEnd) =
            ⟨time + fetch.duration,
              landed source (time + fetch.duration) next fetch upcoming last⟩ := by
        rw [PollRun.after_append, ticked, ended]
      have started : starts last = time :: starts log :=
        lastNews.1.trans (congrArg (time :: ·) news.1)
      have arrived : arrivals last = arrivals log := lastNews.2.trans news.2
      have answer : PollStream.next ⟨period, grace, some due⟩ now (starts log)
          (fetch :: upcoming) =
            match fetch.result with
            | some value =>
                (some ⟨time + fetch.duration, value⟩,
                  ⟨⟨period, grace, some next⟩, upcoming, time :: starts log⟩)
            | none =>
                PollStream.next ⟨period, grace, some next⟩ (time + fetch.duration)
                  (time :: starts log) upcoming := rfl
      cases result : fetch.result with
      | some value =>
          simp only [result] at answer
          simp only [landed, result] at come
          refine ⟨toTick ++ toEnd, ?_⟩
          rw [answer, come]
          refine ⟨started, congrArg (Arrival.told wrap ⟨_, value⟩ :: ·) arrived, ?_⟩
          intro arrival answered
          obtain rfl := Option.some.inj answered
          exact ⟨next, rfl, rfl, rfl, rfl⟩
      | none =>
          simp only [result] at answer
          simp only [landed, result] at come
          obtain ⟨onward, replays⟩ :=
            ih (time + fetch.duration) next (⟨time + fetch.duration, .failed⟩ :: last)
          have failedStarts : starts (⟨time + fetch.duration, .failed⟩ :: last) =
              time :: starts log := started
          have failedArrivals : arrivals (⟨time + fetch.duration, .failed⟩ :: last) =
              arrivals log := arrived
          rw [failedStarts, ← answer, ← come, ← PollRun.after_append] at replays
          refine ⟨toTick ++ toEnd ++ onward, replays.started, ?_, replays.idle⟩
          rw [replays.arrived, failedArrivals]

/-! ## Runs that come to all messages -/

/-- Before any tick, it does not matter whether the ticker has been made. -/
theorem next_of_undue (period grace now : Nat) (started : List Nat) (fetch : Fetch T)
    (upcoming : List (Fetch T)) :
    PollStream.next ⟨period, grace, none⟩ now started (fetch :: upcoming) =
      PollStream.next ⟨period, grace, some now⟩ now started (fetch :: upcoming) := by
  have onTime : ¬ now + grace < now := by omega
  simp only [PollStream.next, Ticker.tickTime, Ticker.afterTick, Ticker.periodStart,
    Option.getD_none, Option.getD_some, Nat.max_self, if_neg onTime]

theorem exists_poll (wrap : T → M) {period grace : Nat} (stream : PollStream T) {due : Option Nat}
    (ticks : stream.ticker = ⟨period, grace, due⟩) {run : PollRun Nat T M}
    (idle : run.task.phase = .idle due) (upcoming : run.task.upcoming = stream.upcoming)
    (started : starts run.task.log = stream.started) :
    ∃ schedule, Replays wrap period grace (stream.poll run.clock) run.task.log
      (run.after (tickerSource period grace wrap) schedule) := by
  obtain ⟨ticker, fetches, times⟩ := stream
  obtain ⟨now, phase, rest, log⟩ := run
  dsimp only at ticks idle upcoming started
  subst ticks idle upcoming started
  obtain ⟨onward, replays⟩ :=
    exists_next period grace wrap rest now (due.getD now) (⟨now, .polled⟩ :: log)
  refine ⟨.poll :: onward, ?_⟩
  cases due with
  | some due => exact ⟨replays.started, replays.arrived, replays.idle⟩
  | none =>
      cases rest with
      | nil =>
          refine ⟨replays.started, replays.arrived, ?_⟩
          intro arrival answered
          cases answered
      | cons fetch rest =>
          change Replays wrap period grace
            (PollStream.next ⟨period, grace, none⟩ now (starts log) (fetch :: rest)) log _
          rw [next_of_undue]
          exact ⟨replays.started, replays.arrived, replays.idle⟩

/-- The run has come to where the stream is after some messages. -/
structure ReplaysAll (wrap : T → M) (answer : List (Arrival T) × PollStream T)
    (before later : List (Occurrence M)) : Prop where
  started : starts later = answer.2.started
  arrived : arrivals later = (answer.1.map (Arrival.told wrap)).reverse ++ arrivals before

theorem exists_take (wrap : T → M) {period grace : Nat} (count : Nat) (stream : PollStream T)
    {due : Option Nat} (ticks : stream.ticker = ⟨period, grace, due⟩) {run : PollRun Nat T M}
    (idle : run.task.phase = .idle due) (upcoming : run.task.upcoming = stream.upcoming)
    (started : starts run.task.log = stream.started) :
    ∃ schedule, ReplaysAll wrap (stream.take run.clock count) run.task.log
      (run.after (tickerSource period grace wrap) schedule).task.log := by
  induction count generalizing stream due run with
  | zero => exact ⟨[], started, rfl⟩
  | succ count ih =>
      obtain ⟨toNext, replays⟩ := exists_poll wrap stream ticks idle upcoming started
      cases answered : stream.poll run.clock with
      | mk message stream' =>
          rw [answered] at replays
          cases message with
          | none =>
              refine ⟨toNext, ?_, ?_⟩
              · simp only [PollStream.take, answered]
                exact replays.started
              · simp only [PollStream.take, answered]
                exact replays.arrived
          | some arrival =>
              obtain ⟨due', ticks', clock, idle', upcoming'⟩ := replays.idle arrival rfl
              obtain ⟨onward, all⟩ := ih stream' ticks' idle' upcoming' replays.started
              rw [clock, ← PollRun.after_append] at all
              refine ⟨toNext ++ onward, ?_, ?_⟩
              · simp only [PollStream.take, answered]
                exact all.started
              · simp only [PollStream.take, answered, List.map_cons, List.reverse_cons,
                  List.append_assoc]
                rw [all.arrived, replays.arrived]
                rfl

end

/-! ## All streams -/

section
variable {τ T M : Type}

/-- Whatever its ticker, as long as it keeps a period: a stream loses and invents nothing however it is
polled, and does all that it can whenever it is.  In particular a screen hears of the collections that
are fetched, and of the records in flight, one after the other.  Nor does a stream lose anything whose
consumer asks for one message after the other, with the ticker that it has, whose period is kept but for
its grace. -/
theorem stream_loses_and_invents_nothing {R α : Type} [Record R] (source : PollSource τ T M)
    {period : Nat} (delays : source.interval.Delays period) :
    (∀ (fetches : List (Fetch T)) schedule,
        let run := (PollRun.mk 0 (.new fetches)).after source schedule
        Faithful source period fetches run.task.log ∧
          (run.task.poll source run.clock).Rests source run.clock) ∧
      (∀ (fetches : List (Fetch (List R))) schedule,
        let collections : PollSource τ (List R) (Message R α) := collectionSource source.interval
        let run := (PollRun.mk 0 (.new fetches)).after collections schedule
        messages run.task.log <+: (fetches.filterMap Fetch.result).map .collectionUpdated ∧
          Faithful collections period fetches run.task.log) ∧
      (∀ (fetches : List (Fetch (List (Record.Id R)))) schedule,
        let inFlight : PollSource τ (List (Record.Id R)) (Message R α) :=
          busySource source.interval
        let run := (PollRun.mk 0 (.new fetches)).after inFlight schedule
        messages run.task.log <+: (fetches.filterMap Fetch.result).map .busyChanged ∧
          Faithful inFlight period fetches run.task.log) ∧
      ∀ (fetches : List (Fetch T)) millis count,
        let kept := min millis Ticker.longestPeriod
        let ticking := tickerSource kept Ticker.standardGrace source.wrap
        let answer := (PollStream.new millis fetches).take 0 count
        ∃ schedule,
          let run := (PollRun.mk 0 (.new fetches)).after ticking schedule
          Faithful ticking (kept - Ticker.standardGrace) fetches run.task.log ∧
            ReplaysAll source.wrap answer [] run.task.log := by
  refine ⟨?_, ?_, ?_, ?_⟩
  · intro fetches schedule run
    exact ⟨faithful_after delays fetches schedule, PollTask.rests_poll run.task⟩
  · intro fetches schedule collections run
    have keepsPeriod : collections.interval.Delays period := delays
    have faithful := faithful_after keepsPeriod fetches schedule
    exact ⟨faithful.messages, faithful⟩
  · intro fetches schedule inFlight run
    have keepsPeriod : inFlight.interval.Delays period := delays
    have faithful := faithful_after keepsPeriod fetches schedule
    exact ⟨faithful.messages, faithful⟩
  · intro fetches millis count kept ticking answer
    let fresh : PollRun Nat T M := ⟨0, .new fetches⟩
    have idle : fresh.task.phase = .idle none := rfl
    obtain ⟨schedule, replays⟩ :=
      exists_take source.wrap count (PollStream.new millis fetches) rfl idle rfl rfl
    exact ⟨schedule, faithful_after (Ticker.interval_delays kept Ticker.standardGrace) fetches schedule,
      replays⟩

end

/-- The first of these fetches fails, and so does the one between the two values. -/
def brokenFetches {T : Type} (first second : T) : List (Fetch T) :=
  [⟨30, none⟩, ⟨250, some first⟩, ⟨0, none⟩, ⟨20, some second⟩]

/-- The consumer asks late for the second fetch, takes its time after the first message, and then finds
a fetch that fails at once. -/
def hesitantConsumer : List Stimulus :=
  [.wait 7, .poll, .wait 40, .poll, .wait 103, .poll, .wait 250, .poll, .wait 300, .poll, .wait 100,
    .poll, .wait 20, .poll]

theorem hesitantConsumer_loses_nothing :
    let collections : PollSource Nat (List Account) (Message Account Rat) :=
      collectionSource (Ticker.interval 100 0)
    let lists := brokenFetches [Screen.accountWith "a" .active] []
    let run := (PollRun.mk 0 (.new lists)).after collections hesitantConsumer
    let inFlight : PollSource Nat (List (Record.Id Account)) (Message Account Rat) :=
      busySource (Ticker.interval 100 0)
    let flights := brokenFetches ["a", "b"] ["b"]
    let flown := (PollRun.mk 0 (.new flights)).after inFlight hesitantConsumer
    collections.interval.Delays 100 ∧ starts run.task.log = [800, 700, 150, 7] ∧
      (arrivals run.task.log).map Prod.fst = [820, 400] ∧
      messages run.task.log =
        [.collectionUpdated [Screen.accountWith "a" .active], .collectionUpdated []] ∧
      messages flown.task.log = [.busyChanged ["a", "b"], .busyChanged ["b"]] ∧
      Faithful collections 100 lists run.task.log ∧
      Faithful inFlight 100 flights flown.task.log := by
  intro collections lists run inFlight flights flown
  have delays : collections.interval.Delays 100 := Ticker.interval_delays 100 0
  obtain ⟨-, arrive, fly, -⟩ :=
    stream_loses_and_invents_nothing (R := Account) (α := Rat) collections delays
  obtain ⟨arrived, faithful⟩ := arrive lists hesitantConsumer
  obtain ⟨flew, faithfulToo⟩ := fly flights hesitantConsumer
  have both : (messages run.task.log).length = 2 := by decide +kernel
  have bothToo : (messages flown.task.log).length = 2 := by decide +kernel
  exact ⟨delays, by decide +kernel, by decide +kernel, arrived.eq_of_length both,
    flew.eq_of_length bothToo, faithful, faithfulToo⟩

end AdaptiveView

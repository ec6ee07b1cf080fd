import AdaptiveView.Proofs.Polling.Log

/-!
# What a poll stream does

Whatever becomes of the fetches, however late the consumer polls and however the clock goes on, a stream
makes one fetch after the other, one for each tick.  A fetch that fails yields nothing, one that succeeds
yields its value, and after a message nothing is done before the next poll.  A poll is a succession of
steps that keep the log sound, and so a run of polls keeps it.
-/

set_option autoImplicit false

namespace AdaptiveView

variable {τ T M : Type}

section
variable {source : PollSource τ T M} {period now : Nat} {fetches rest upcoming : List (Fetch T)}
  {log : List (Occurrence M)} {ticker : τ} {since : Nat} {fetch : Fetch T}

/-! ## What a run keeps -/

/-- Before the first tick there is nothing to fetch. -/
def Opened (log : List (Occurrence M)) (upcoming : List (Fetch T)) : Prop :=
  acts log = [] → upcoming = []

/-- What holds of a stream at any time. -/
def PollTask.Kept (source : PollSource τ T M) (period : Nat) (fetches : List (Fetch T))
    (now : Nat) (task : PollTask τ T M) : Prop :=
  match task.phase with
  | .idle none => task.log = [] ∧ task.upcoming = fetches
  | .idle (some ticker) =>
      Paused source period fetches now ticker task.log task.upcoming ∧
        Opened task.log task.upcoming
  | .waiting ticker =>
      Paused source period fetches now ticker task.log task.upcoming ∧
        Opened task.log task.upcoming ∧ Awake task.log
  | .fetching ticker since fetch =>
      UnderWay source period fetches now ticker since fetch task.log task.upcoming

namespace PollTask

theorem opened_of_begun (begun : (acts log).head? = some ⟨since, .started⟩)
    {latest : Occurrence M} : Opened (latest :: log) upcoming := by
  intro none
  have among : (⟨since, .started⟩ : Occurrence M) ∈ acts (latest :: log) := by
    have inLog := List.mem_filter.mp (List.mem_of_mem_head? begun)
    exact List.mem_filter.mpr ⟨List.mem_cons_of_mem _ inLog.1, inLog.2⟩
  rw [none] at among
  cases among

theorem kept_proceed
    (underWay : UnderWay source period fetches now ticker since fetch log upcoming)
    {again : List (Occurrence M) → PollTask τ T M}
    (onward : ∀ log, Paused source period fetches now ticker log upcoming → Awake log →
      Opened log upcoming → (again log).Kept source period fetches now) :
    (proceed source now ticker since fetch upcoming log again).Kept source period fetches now := by
  unfold proceed
  split
  · exact underWay
  · cases result : fetch.result with
    | some value =>
        have outcome : source.outcomeOf fetch = some (source.wrap value) := by
          rw [PollSource.outcomeOf, result]
          rfl
        refine ⟨underWay.ended_with ?_, opened_of_begun underWay.begun⟩
        rw [outcome]
        rfl
    | none =>
        have outcome : source.outcomeOf fetch = none := by
          rw [PollSource.outcomeOf, result]
          rfl
        apply onward
        · apply underWay.ended_with
          rw [outcome]
          rfl
        · exact awake_cons rfl
        · exact opened_of_begun underWay.begun

/-- Nothing has been done before the first tick, which comes at once. -/
def AtOpening (source : PollSource τ T M) (now : Nat) (ticker : τ)
    (log : List (Occurrence M)) (upcoming : List (Fetch T)) : Prop :=
  acts log = [] → upcoming ≠ [] →
    log = [⟨now, .polled⟩] ∧ (source.interval.tick? ticker now).isSome = true

theorem Opened.atOpening (opened : Opened log upcoming) :
    AtOpening source now ticker log upcoming :=
  fun fresh more => absurd (opened fresh) more

theorem kept_await (delays : source.interval.Delays period)
    (paused : Paused source period fetches now ticker log upcoming) (awake : Awake log)
    (opening : AtOpening source now ticker log upcoming) :
    (await source now ticker log upcoming).Kept source period fetches now := by
  induction upcoming generalizing ticker log with
  | nil => exact ⟨paused, fun _ => rfl, awake⟩
  | cons fetch upcoming ih =>
      cases ticks : source.interval.tick? ticker now with
      | none =>
          simp only [await, ticks]
          refine ⟨paused, ?_, awake⟩
          intro fresh
          have ticksAtOnce := (opening fresh (List.cons_ne_nil _ _)).2
          rw [ticks] at ticksAtOnce
          cases ticksAtOnce
      | some next =>
          simp only [await, ticks]
          apply kept_proceed
          · apply paused.begun delays awake ticks
            intro fresh
            exact (opening fresh (List.cons_ne_nil _ _)).1
          · intro log paused awake opened
            exact ih paused awake (Opened.atOpening opened)

theorem kept_poll (delays : source.interval.Delays period) {task : PollTask τ T M}
    (kept : task.Kept source period fetches now) :
    (task.poll source now).Kept source period fetches now := by
  obtain ⟨phase, upcoming, log⟩ := task
  cases phase with
  | idle ticker =>
      cases ticker with
      | none =>
          obtain ⟨empty, all⟩ := kept
          change log = [] at empty
          change upcoming = fetches at all
          subst empty all
          exact kept_await delays Paused.at_first_poll (awake_cons rfl)
            fun _ _ => ⟨rfl, delays.atOnce now⟩
      | some ticker =>
          obtain ⟨paused, opened⟩ := kept
          exact kept_await delays paused.polled (awake_cons rfl) (Opened.atOpening opened)
  | waiting ticker =>
      obtain ⟨paused, opened, -⟩ := kept
      exact kept_await delays paused.polled (awake_cons rfl) (Opened.atOpening opened)
  | fetching ticker since fetch =>
      apply kept_proceed (UnderWay.polled kept)
      intro log paused awake opened
      exact kept_await delays paused awake (Opened.atOpening opened)

theorem kept_later {task : PollTask τ T M} (kept : task.Kept source period fetches now)
    (duration : Nat) : task.Kept source period fetches (now + duration) := by
  obtain ⟨phase, upcoming, log⟩ := task
  cases phase with
  | idle ticker =>
      cases ticker with
      | none => exact kept
      | some ticker =>
          obtain ⟨paused, opened⟩ := kept
          exact ⟨{ paused with toSound := paused.toSound.later duration }, opened⟩
  | waiting ticker =>
      obtain ⟨paused, opened⟩ := kept
      exact ⟨{ paused with toSound := paused.toSound.later duration }, opened⟩
  | fetching ticker since fetch =>
      have underWay : UnderWay source period fetches now ticker since fetch log upcoming := kept
      exact { underWay with toSound := underWay.toSound.later duration }

end PollTask

theorem PollRun.kept_after (delays : source.interval.Delays period) {run : PollRun τ T M}
    (kept : run.task.Kept source period fetches run.clock) (schedule : List Stimulus) :
    (run.after source schedule).task.Kept source period fetches
      (run.after source schedule).clock := by
  induction schedule generalizing run with
  | nil => exact kept
  | cons stimulus rest ih =>
      apply ih
      cases stimulus with
      | wait duration => exact PollTask.kept_later kept duration
      | poll => exact PollTask.kept_poll delays kept

/-! ## Where a poll ends -/

/-- What has just been polled has yielded a message, or else can do nothing at the moment. -/
def PollTask.Rests (source : PollSource τ T M) (now : Nat) (task : PollTask τ T M) : Prop :=
  match task.phase with
  | .idle _ => ∃ message, task.log.head? = some ⟨now, .yielded message⟩
  | .waiting ticker => task.upcoming = [] ∨ source.interval.tick? ticker now = none
  | .fetching _ since fetch => now < since + fetch.duration

namespace PollTask

theorem rests_proceed {again : List (Occurrence M) → PollTask τ T M}
    (onward : ∀ log, (again log).Rests source now) :
    (proceed source now ticker since fetch upcoming log again).Rests source now := by
  unfold proceed
  split
  case isTrue early => exact early
  case isFalse =>
      cases fetch.result with
      | some value => exact ⟨_, rfl⟩
      | none => exact onward _

theorem rests_await : (await source now ticker log upcoming).Rests source now := by
  induction upcoming generalizing ticker log with
  | nil => exact .inl rfl
  | cons fetch upcoming ih =>
      cases ticks : source.interval.tick? ticker now with
      | none =>
          simp only [await, ticks]
          exact .inr ticks
      | some next =>
          simp only [await, ticks]
          exact rests_proceed fun _ => ih

theorem rests_poll (task : PollTask τ T M) : (task.poll source now).Rests source now := by
  obtain ⟨phase, upcoming, log⟩ := task
  cases phase with
  | idle ticker => exact rests_await
  | waiting ticker => exact rests_await
  | fetching ticker since fetch => exact rests_proceed fun _ => rests_await

end PollTask

/-! ## What holds of every log -/

/-- A log says that nothing is lost or invented: what comes of the fetches comes out in their order, they
are made one at a time, each with a tick of its own, the first one when the stream is polled first, none
between a message and the next poll, and no two within a period. -/
structure Faithful (source : PollSource τ T M) (period : Nat) (fetches : List (Fetch T))
    (log : List (Occurrence M)) : Prop where
  outcomes : outcomes log <+: fetches.map source.outcomeOf
  messages : messages log <+: (fetches.filterMap Fetch.result).map source.wrap
  inTurn : (acts log).IsChain fun later earlier => earlier.Leads later
  /-- The last tick has its fetch, too. -/
  whole : ∀ latest ∈ (acts log).head?, latest.event ≠ .ticked
  inTime : log.Pairwise fun later earlier => earlier.time ≤ later.time
  first : fetches ≠ [] → log ≠ [] →
    ∃ time, [⟨time, .started⟩, ⟨time, .ticked⟩, ⟨time, .polled⟩] <:+ log
  asked : log.IsChain fun later earlier => earlier.message?.isSome = true → later.event = .polled
  spaced : (starts log).Pairwise fun later earlier => earlier + period ≤ later

theorem outcomes_of_idle (idle : acts log = []) : outcomes log = [] := by
  rw [outcomes, List.reverse_eq_nil_iff, List.filterMap_eq_nil_iff]
  intro occurrence among
  have polled := List.filter_eq_nil_iff.mp idle occurrence among
  obtain ⟨time, event⟩ := occurrence
  cases event with
  | polled => rfl
  | ticked | started | failed | yielded => exact absurd rfl polled

theorem Paused.whole (paused : Paused source period fetches now ticker log rest) :
    ∀ latest ∈ (acts log).head?, latest.event ≠ .ticked := by
  intro latest isLatest isTick
  have ended := paused.resolved latest isLatest
  obtain ⟨time, event⟩ := latest
  obtain rfl : event = .ticked := isTick
  cases ended

theorem Sound.faithful (sound : Sound source period fetches now log rest)
    (opened : acts log = [] → rest = [])
    (whole : ∀ latest ∈ (acts log).head?, latest.event ≠ .ticked) :
    Faithful source period fetches log where
  outcomes := by
    obtain ⟨past, all, outcomes⟩ := sound.ended
    rw [outcomes, all, List.map_append]
    exact List.prefix_append _ _
  messages := by
    obtain ⟨past, all, outcomes⟩ := sound.ended
    have values : (fetches.filterMap Fetch.result).map source.wrap =
        (fetches.map source.outcomeOf).filterMap id := by
      rw [List.map_filterMap, List.filterMap_map]
      rfl
    rw [values, messages_eq, outcomes, all, List.map_append, List.filterMap_append]
    exact List.prefix_append _ _
  inTurn := sound.inTurn
  whole := whole
  inTime := sound.inTime
  first some _ := by
    apply sound.first
    intro idle
    obtain ⟨past, all, outcomes⟩ := sound.ended
    rw [outcomes_of_idle idle] at outcomes
    rw [opened idle, List.append_nil, List.map_eq_nil_iff.mp outcomes.symm] at all
    exact some all
  asked := sound.asked
  spaced := sound.spaced

theorem PollTask.Kept.faithful {task : PollTask τ T M}
    (kept : task.Kept source period fetches now) : Faithful source period fetches task.log := by
  obtain ⟨phase, upcoming, log⟩ := task
  cases phase with
  | idle ticker =>
      cases ticker with
      | none =>
          obtain ⟨empty, -⟩ := kept
          change log = [] at empty
          subst empty
          exact {
            outcomes := List.nil_prefix
            messages := List.nil_prefix
            inTurn := .nil
            whole := by simp [acts]
            inTime := .nil
            first := fun _ some => absurd rfl some
            asked := .nil
            spaced := .nil }
      | some ticker =>
          obtain ⟨paused, opened⟩ := kept
          exact paused.toSound.faithful opened paused.whole
  | waiting ticker =>
      obtain ⟨paused, opened, -⟩ := kept
      exact paused.toSound.faithful opened paused.whole
  | fetching ticker since fetch =>
      have underWay : UnderWay source period fetches now ticker since fetch log upcoming := kept
      apply underWay.toSound.faithful
      · intro idle
        have begun := underWay.begun
        rw [idle] at begun
        cases begun
      · intro latest isLatest
        rw [underWay.begun] at isLatest
        obtain rfl := Option.some.inj isLatest
        intro isTick
        cases isTick

end

theorem faithful_after {source : PollSource τ T M} {period : Nat}
    (delays : source.interval.Delays period) (fetches : List (Fetch T))
    (schedule : List Stimulus) :
    Faithful source period fetches
      ((PollRun.mk 0 (.new fetches)).after source schedule).task.log := by
  have fresh : (PollTask.new fetches : PollTask τ T M).Kept source period fetches 0 := ⟨rfl, rfl⟩
  exact (PollRun.kept_after delays fresh schedule).faithful

end AdaptiveView

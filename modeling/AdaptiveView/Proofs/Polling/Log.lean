import AdaptiveView.Polling.Task
import Mathlib.Data.List.Chain
import Mathlib.Data.List.Infix

/-!
# The log of a poll stream

What a stream has done so far, and what a log of it always says.  Each thing that a stream does keeps
the log sound: a poll, a tick with the start of a fetch, and the end of a fetch.
-/

set_option autoImplicit false

namespace AdaptiveView

variable {τ T M : Type}

/-! ## The log -/

namespace Occurrence

/-- What has come of a fetch: nothing, or a message. -/
def outcome? : Occurrence M → Option (Option M)
  | ⟨_, .failed⟩ => some none
  | ⟨_, .yielded message⟩ => some (some message)
  | _ => none

def message? (occurrence : Occurrence M) : Option M :=
  occurrence.outcome?.join

/-- Whether the stream has done something, other than being polled. -/
def isAct : Occurrence M → Bool
  | ⟨_, .polled⟩ => false
  | _ => true

def start? : Occurrence M → Option Nat
  | ⟨time, .started⟩ => some time
  | _ => none

/-- What is done after what: a fetch starts with each tick, and a tick follows the end of a fetch. -/
inductive Leads : Occurrence M → Occurrence M → Prop where
  | start (time : Nat) : Leads ⟨time, .ticked⟩ ⟨time, .started⟩
  | fail (since time : Nat) : Leads ⟨since, .started⟩ ⟨time, .failed⟩
  | yield (since time : Nat) (message : M) : Leads ⟨since, .started⟩ ⟨time, .yielded message⟩
  | tickAgain (ended time : Nat) : Leads ⟨ended, .failed⟩ ⟨time, .ticked⟩
  | tickNext (ended time : Nat) (message : M) : Leads ⟨ended, .yielded message⟩ ⟨time, .ticked⟩

end Occurrence

/-- All that the stream has done, the latest first. -/
def acts (log : List (Occurrence M)) : List (Occurrence M) :=
  log.filter Occurrence.isAct

/-- When the fetches have started, the latest first. -/
def starts (log : List (Occurrence M)) : List Nat :=
  log.filterMap Occurrence.start?

/-- What has come of the fetches, the first one first. -/
def outcomes (log : List (Occurrence M)) : List (Option M) :=
  (log.filterMap Occurrence.outcome?).reverse

/-- The messages, the first one first. -/
def messages (log : List (Occurrence M)) : List M :=
  (log.filterMap Occurrence.message?).reverse

def PollSource.outcomeOf (source : PollSource τ T M) (fetch : Fetch T) : Option M :=
  fetch.result.map source.wrap

theorem acts_cons_of_outcome {occurrence : Occurrence M} {outcome : Option M}
    (ended : occurrence.outcome? = some outcome) (log : List (Occurrence M)) :
    acts (occurrence :: log) = occurrence :: acts log := by
  obtain ⟨time, event⟩ := occurrence
  cases event with
  | failed | yielded => rfl
  | polled | ticked | started => cases ended

theorem starts_cons_of_outcome {occurrence : Occurrence M} {outcome : Option M}
    (ended : occurrence.outcome? = some outcome) (log : List (Occurrence M)) :
    starts (occurrence :: log) = starts log := by
  obtain ⟨time, event⟩ := occurrence
  cases event with
  | failed | yielded => rfl
  | polled | ticked | started => cases ended

theorem messages_eq (log : List (Occurrence M)) : messages log = (outcomes log).filterMap id := by
  rw [outcomes, List.filterMap_reverse, List.filterMap_filterMap]
  rfl

/-! ## What a log says -/

/-- The first tick is at once, and each later one at least a period after the one before. -/
structure Interval.Delays (interval : Interval τ) (period : Nat) : Prop where
  atOnce : ∀ now, (interval.tick? (interval.create now) now).isSome = true
  later : ∀ {ticker next : τ} {now time : Nat}, interval.tick? ticker now = some next →
    now ≤ time → time < now + period → interval.tick? next time = none

/-- A log of a stream that has made fetches; those of `rest` have not come out yet. -/
structure Sound (source : PollSource τ T M) (period : Nat) (fetches : List (Fetch T)) (now : Nat)
    (log : List (Occurrence M)) (rest : List (Fetch T)) : Prop where
  ended : ∃ past, fetches = past ++ rest ∧ outcomes log = past.map source.outcomeOf
  inTurn : (acts log).IsChain fun later earlier => earlier.Leads later
  inTime : log.Pairwise fun later earlier => earlier.time ≤ later.time
  elapsed : ∀ occurrence ∈ log, occurrence.time ≤ now
  asked : log.IsChain fun later earlier => earlier.message?.isSome = true → later.event = .polled
  spaced : (starts log).Pairwise fun later earlier => earlier + period ≤ later
  first : acts log ≠ [] →
    ∃ time, [⟨time, .started⟩, ⟨time, .ticked⟩, ⟨time, .polled⟩] <:+ log

/-- The latest in the log is no message. -/
def Awake (log : List (Occurrence M)) : Prop :=
  ∀ latest ∈ log.head?, latest.message? = none

/-- The ticker does not tick within a period of the latest start. -/
def Rested (source : PollSource τ T M) (period : Nat) (ticker : τ) (log : List (Occurrence M)) :
    Prop :=
  ∀ start ∈ (starts log).head?, ∀ time, start ≤ time → time < start + period →
    source.interval.tick? ticker time = none

/-- No fetch is under way. -/
structure Paused (source : PollSource τ T M) (period : Nat) (fetches : List (Fetch T)) (now : Nat)
    (ticker : τ) (log : List (Occurrence M)) (upcoming : List (Fetch T)) : Prop
    extends Sound source period fetches now log upcoming where
  resolved : ∀ latest ∈ (acts log).head?, latest.outcome?.isSome = true
  rested : Rested source period ticker log

/-- A fetch has been under way since a moment. -/
structure UnderWay (source : PollSource τ T M) (period : Nat) (fetches : List (Fetch T))
    (now : Nat) (ticker : τ) (since : Nat) (fetch : Fetch T) (log : List (Occurrence M))
    (upcoming : List (Fetch T)) : Prop
    extends Sound source period fetches now log (fetch :: upcoming) where
  begun : (acts log).head? = some ⟨since, .started⟩
  awake : Awake log
  rested : Rested source period ticker log

section
variable {source : PollSource τ T M} {period now : Nat} {fetches rest upcoming : List (Fetch T)}
  {log : List (Occurrence M)} {ticker next : τ} {since : Nat} {fetch : Fetch T}

/-! ## What keeps a log sound -/

theorem awake_cons {latest : Occurrence M} (silent : latest.message? = none) :
    Awake (latest :: log) := by
  intro occurrence isLatest
  obtain rfl : latest = occurrence := Option.some.inj isLatest
  exact silent

namespace Sound

theorem later (sound : Sound source period fetches now log rest) (duration : Nat) :
    Sound source period fetches (now + duration) log rest :=
  { sound with
    elapsed := fun occurrence among =>
      (sound.elapsed occurrence among).trans (Nat.le_add_right now duration) }

theorem polled (sound : Sound source period fetches now log rest) :
    Sound source period fetches now (⟨now, .polled⟩ :: log) rest where
  ended := sound.ended
  inTurn := sound.inTurn
  inTime := List.pairwise_cons.mpr ⟨sound.elapsed, sound.inTime⟩
  elapsed := List.forall_mem_cons.mpr ⟨Nat.le_refl now, sound.elapsed⟩
  asked := List.isChain_cons.mpr ⟨fun _ _ _ => rfl, sound.asked⟩
  spaced := sound.spaced
  first some := by
    obtain ⟨time, opening⟩ := sound.first some
    exact ⟨time, opening.trans (List.suffix_cons _ _)⟩

theorem start_le (sound : Sound source period fetches now log rest) {start : Nat}
    (among : start ∈ starts log) : start ≤ now := by
  obtain ⟨⟨time, event⟩, inLog, same⟩ := List.mem_filterMap.mp among
  cases event with
  | started =>
      obtain rfl := Option.some.inj same
      exact sound.elapsed _ inLog
  | polled | ticked | failed | yielded => cases same

/-- A start is a period after all earlier ones if it is so after the latest of them. -/
theorem apart (sound : Sound source period fetches now log rest)
    (late : ∀ start ∈ (starts log).head?, start + period ≤ now) :
    ∀ start ∈ starts log, start + period ≤ now := by
  have spaced := sound.spaced
  cases found : starts log with
  | nil => exact List.forall_mem_nil _
  | cons latest earlier =>
      rw [found] at late spaced
      have last : latest + period ≤ now := late latest rfl
      refine List.forall_mem_cons.mpr ⟨last, ?_⟩
      intro start among
      have before : start + period ≤ latest := List.rel_of_pairwise_cons spaced among
      omega

/-- A tick, and the start of the next fetch with it. -/
theorem begun (sound : Sound source period fetches now log rest) (awake : Awake log)
    (resolved : ∀ latest ∈ (acts log).head?, latest.outcome?.isSome = true)
    (late : ∀ start ∈ (starts log).head?, start + period ≤ now)
    (opened : acts log = [] → log = [⟨now, .polled⟩]) :
    Sound source period fetches now (⟨now, .started⟩ :: ⟨now, .ticked⟩ :: log) rest where
  ended := sound.ended
  inTurn := by
    refine List.isChain_cons.mpr ⟨?_, List.isChain_cons.mpr ⟨?_, sound.inTurn⟩⟩
    · intro earlier isTick
      obtain rfl := Option.some.inj isTick
      exact .start now
    · intro latest isLatest
      have ended := resolved latest isLatest
      obtain ⟨time, event⟩ := latest
      cases event with
      | failed => exact .tickAgain time now
      | yielded message => exact .tickNext time now message
      | polled | ticked | started => cases ended
  inTime := by
    refine List.pairwise_cons.mpr ⟨?_, List.pairwise_cons.mpr ⟨sound.elapsed, sound.inTime⟩⟩
    exact List.forall_mem_cons.mpr ⟨Nat.le_refl now, sound.elapsed⟩
  elapsed := List.forall_mem_cons.mpr
    ⟨Nat.le_refl now, List.forall_mem_cons.mpr ⟨Nat.le_refl now, sound.elapsed⟩⟩
  asked := by
    refine List.isChain_cons.mpr ⟨?_, List.isChain_cons.mpr ⟨?_, sound.asked⟩⟩
    · intro earlier isTick spoke
      obtain rfl := Option.some.inj isTick
      cases spoke
    · intro latest isLatest spoke
      rw [awake latest isLatest] at spoke
      cases spoke
  spaced := List.pairwise_cons.mpr ⟨sound.apart late, sound.spaced⟩
  first _ := by
    by_cases fresh : acts log = []
    · rw [opened fresh]
      exact ⟨now, List.suffix_refl _⟩
    · obtain ⟨time, opening⟩ := sound.first fresh
      exact ⟨time, opening.trans ((List.suffix_cons _ _).trans (List.suffix_cons _ _))⟩

/-- The end of the fetch that has been under way. -/
theorem ended_with (sound : Sound source period fetches now log (fetch :: rest))
    (begun : (acts log).head? = some ⟨since, .started⟩) (awake : Awake log)
    {event : PollEvent M}
    (outcome : (Occurrence.mk now event).outcome? = some (source.outcomeOf fetch)) :
    Sound source period fetches now (⟨now, event⟩ :: log) rest where
  ended := by
    obtain ⟨past, all, outcomes⟩ := sound.ended
    refine ⟨past ++ [fetch], by rw [all, List.append_assoc, List.singleton_append], ?_⟩
    rw [AdaptiveView.outcomes, List.filterMap_cons_some outcome, List.reverse_cons,
      List.map_append]
    exact congrArg (· ++ [source.outcomeOf fetch]) outcomes
  inTurn := by
    rw [acts_cons_of_outcome outcome]
    refine List.isChain_cons.mpr ⟨?_, sound.inTurn⟩
    intro latest isLatest
    rw [begun] at isLatest
    obtain rfl := Option.some.inj isLatest
    cases event with
    | failed => exact .fail since now
    | yielded message => exact .yield since now message
    | polled | ticked | started => cases outcome
  inTime := List.pairwise_cons.mpr ⟨sound.elapsed, sound.inTime⟩
  elapsed := List.forall_mem_cons.mpr ⟨Nat.le_refl now, sound.elapsed⟩
  asked := by
    refine List.isChain_cons.mpr ⟨?_, sound.asked⟩
    intro latest isLatest spoke
    rw [awake latest isLatest] at spoke
    cases spoke
  spaced := by
    rw [starts_cons_of_outcome outcome]
    exact sound.spaced
  first _ := by
    have done : acts log ≠ [] := by
      intro none
      rw [none] at begun
      cases begun
    obtain ⟨time, opening⟩ := sound.first done
    exact ⟨time, opening.trans (List.suffix_cons _ _)⟩

end Sound

/-- With the end of a fetch none is under way, and the ticker rests as before. -/
theorem UnderWay.ended_with (underWay : UnderWay source period fetches now ticker since fetch log
      upcoming) {event : PollEvent M}
    (outcome : (Occurrence.mk now event).outcome? = some (source.outcomeOf fetch)) :
    Paused source period fetches now ticker (⟨now, event⟩ :: log) upcoming where
  toSound := underWay.toSound.ended_with underWay.begun underWay.awake outcome
  resolved := by
    intro latest isLatest
    rw [acts_cons_of_outcome outcome] at isLatest
    obtain rfl := Option.some.inj isLatest
    rw [outcome]
    rfl
  rested := by
    unfold Rested
    rw [starts_cons_of_outcome outcome]
    exact underWay.rested

/-- A tick puts the next fetch under way, and the ticker rests from then on. -/
theorem Paused.begun (delays : source.interval.Delays period)
    (paused : Paused source period fetches now ticker log (fetch :: upcoming))
    (awake : Awake log) (ticks : source.interval.tick? ticker now = some next)
    (opened : acts log = [] → log = [⟨now, .polled⟩]) :
    UnderWay source period fetches now next now fetch
      (⟨now, .started⟩ :: ⟨now, .ticked⟩ :: log) upcoming where
  toSound := by
    apply paused.toSound.begun awake paused.resolved ?_ opened
    intro start isLatest
    -- the ticker would not tick earlier
    by_contra early
    have past := paused.start_le (List.mem_of_mem_head? isLatest)
    have none := paused.rested start isLatest now past (by omega)
    rw [ticks] at none
    cases none
  begun := rfl
  awake := awake_cons rfl
  rested := by
    intro start isLatest time notBefore within
    obtain rfl := Option.some.inj isLatest
    exact delays.later ticks notBefore within

/-! ## What a poll adds -/

/-- A stream that is polled first. -/
theorem Paused.at_first_poll :
    Paused source period fetches now ticker [⟨now, .polled⟩] fetches where
  ended := ⟨[], rfl, rfl⟩
  inTurn := .nil
  inTime := List.pairwise_singleton _ _
  elapsed := List.forall_mem_singleton.mpr (Nat.le_refl now)
  asked := .singleton _
  spaced := .nil
  first some := absurd rfl some
  resolved := by
    intro latest isLatest
    cases isLatest
  rested := by
    intro start isLatest
    cases isLatest

theorem Paused.polled (paused : Paused source period fetches now ticker log upcoming) :
    Paused source period fetches now ticker (⟨now, .polled⟩ :: log) upcoming where
  toSound := paused.toSound.polled
  resolved := paused.resolved
  rested := paused.rested

theorem UnderWay.polled
    (underWay : UnderWay source period fetches now ticker since fetch log upcoming) :
    UnderWay source period fetches now ticker since fetch (⟨now, .polled⟩ :: log) upcoming where
  toSound := underWay.toSound.polled
  begun := underWay.begun
  awake := awake_cons rfl
  rested := underWay.rested

end

end AdaptiveView

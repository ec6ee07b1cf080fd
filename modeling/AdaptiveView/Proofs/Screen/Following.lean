import AdaptiveView.Proofs.Screen.Current
import AdaptiveView.Screen.Follow

/-!
# Screens that hear of every change

A screen follows its store from before it was opened.  Between two changes that it hears of, others may
do anything to the store, and the screen may get any message.

Once nothing is pending the screen is up to date, with one exception.  The feed keeps a bounded number
of changes, and a change that it dropped before the screen came to it is passed over.  If that was a
change of a text that the screen reads from, and the screen has not read its choices for another reason
since, then nothing makes it read them.
-/

set_option autoImplicit false

namespace AdaptiveView

open WorkingStore Selector

/-- What can happen while a screen follows its store. -/
inductive FollowingEvent (R : Type) [Record R] (α : Type) where
  | hears (message : Message R α)
  /-- The screen is given the next change of the store, if there is one. -/
  | polls
  | elsewhere (access : StoreAccess)

/-- What a screen does not know of since it last read its choices. -/
structure Unread where
  /-- How many changes had been reported by then. -/
  since : Nat
  /-- Those of the later changes that were dropped before the screen came to them. -/
  missed : List Change

namespace Following

variable {R : Type} [Record R] {α σ : Type} [Coordinate α] [PreferenceStore σ]

/-- A screen that is subscribed first, and opened after others have used the store. -/
def opened (name : String) (sort : SortState (Record.SortField R)) (config : Settings α)
    (store : σ) (meanwhile : List StoreAccess) : Following R α σ :=
  let subscription := (PreferenceStore.feed store).subscribe
  let (screen, store) := Screen.new name sort config (accessed store meanwhile)
  ⟨screen, store, subscription⟩

def after (following : Following R α σ) : FollowingEvent R α → Following R α σ
  | .hears message => following.afterMessage message
  | .polls => following.afterChange?.getD following
  | .elsewhere access => { following with store := access.on following.store }

def run (following : Following R α σ) : List (FollowingEvent R α) → Following R α σ
  | [] => following
  | event :: rest => (following.after event).run rest

/-- The position of the next change that the screen can hear of. -/
def position (following : Following R α σ) : Nat :=
  (PreferenceStore.feed following.store).position following.subscription

def upcoming? (following : Following R α σ) : Option Change :=
  (reported following.store)[following.position]?

/-- The message that reaches the screen with an event. -/
def message? (following : Following R α σ) : FollowingEvent R α → Option (Message R α)
  | .hears message => some message
  | .polls => following.upcoming?.map .preferenceChanged
  | .elsewhere _ => none

def reads (following : Following R α σ) (event : FollowingEvent R α) : Bool :=
  (following.message? event).any following.screen.reads

/-- The changes that the screen passes over with an event. -/
def passed (following : Following R α σ) (since : Nat) : FollowingEvent R α → List Change
  | .polls =>
      ((reported following.store).take following.position).drop
        (max since following.subscription.next)
  | _ => []

def noted (following : Following R α σ) (unread : Unread) (event : FollowingEvent R α) :
    Unread :=
  if following.reads event then ⟨(reported (following.after event).store).length, []⟩
  else { unread with missed := unread.missed ++ following.passed unread.since event }

/-- What is unread after a run. -/
def unread (following : Following R α σ) (earlier : Unread) :
    List (FollowingEvent R α) → Unread
  | [] => earlier
  | event :: rest => (following.after event).unread (following.noted earlier event) rest

/-- The changes since the last reading that the screen can still hear of, or will miss. -/
def awaited (following : Following R α σ) (unread : Unread) : List Change :=
  (reported following.store).drop (max unread.since following.subscription.next)

/-! ## One event -/

theorem afterChange?_of_some {following : Following R α σ} {change : Change}
    (found : following.upcoming? = some change) :
    following.afterChange? =
      some ({ following with subscription := ⟨following.position + 1⟩ }.afterMessage
        (.preferenceChanged change)) := by
  unfold upcoming? reported position at found
  rw [Array.getElem?_toList] at found
  unfold afterChange? position
  rw [ChangeFeed.nextChange_of_some found]

theorem afterChange?_of_none {following : Following R α σ}
    (absent : following.upcoming? = none) : following.afterChange? = none := by
  unfold upcoming? reported position at absent
  rw [Array.getElem?_toList] at absent
  unfold afterChange?
  rw [ChangeFeed.nextChange_of_none absent]
  cases (PreferenceStore.feed following.store).isClosed
  · rfl
  · rfl

theorem after_polls_of_some {following : Following R α σ} {change : Change}
    (found : following.upcoming? = some change) :
    following.after .polls =
      { following with subscription := ⟨following.position + 1⟩ }.afterMessage
        (.preferenceChanged change) :=
  congrArg (·.getD following) (afterChange?_of_some found)

theorem after_polls_of_none {following : Following R α σ}
    (absent : following.upcoming? = none) : following.after .polls = following :=
  congrArg (·.getD following) (afterChange?_of_none absent)

/-- An event with a message is that message for the screen, whoever sent it. -/
theorem after_of_message {following : Following R α σ} {event : FollowingEvent R α}
    {message : Message R α} (sent : following.message? event = some message) :
    (following.after event).screen =
        (following.screen.update message following.store).screen ∧
      (following.after event).store =
        (following.screen.update message following.store).store := by
  cases event with
  | hears other =>
      cases sent
      exact ⟨rfl, rfl⟩
  | polls =>
      obtain ⟨change, found, rfl⟩ := Option.map_eq_some_iff.mp sent
      rw [after_polls_of_some found]
      exact ⟨rfl, rfl⟩
  | elsewhere access => cases sent

variable [WorkingStore σ]

/-- An event without a message leaves the screen alone. -/
theorem after_of_no_message {following : Following R α σ} {event : FollowingEvent R α}
    (works : Works following.store) (silent : following.message? event = none) :
    (following.after event).screen = following.screen ∧ Works (following.after event).store ∧
      Tells following.store (following.after event).store := by
  cases event with
  | hears message => cases silent
  | polls =>
      rw [after_polls_of_none (Option.map_eq_none_iff.mp silent)]
      exact ⟨rfl, works, .refl _⟩
  | elsewhere access => exact ⟨rfl, works_access works access, tells_access works access⟩

theorem works_after {following : Following R α σ} (works : Works following.store)
    (event : FollowingEvent R α) :
    Works (following.after event).store ∧ Tells following.store (following.after event).store := by
  cases sent : following.message? event with
  | none => exact (after_of_no_message works sent).2
  | some message =>
      rw [(after_of_message sent).2]
      exact ⟨Screen.works_update works _ _, Screen.tells_update works _ _⟩

omit [WorkingStore σ] in
theorem name_after (following : Following R α σ) (event : FollowingEvent R α) :
    (following.after event).screen.name = following.screen.name := by
  cases sent : following.message? event with
  | some message => rw [(after_of_message sent).1, Screen.name_update]
  | none =>
      cases event with
      | hears message => cases sent
      | polls => rw [after_polls_of_none (Option.map_eq_none_iff.mp sent)]
      | elsewhere access => rfl

theorem steady_after {following : Following R α σ} (works : Works following.store)
    (steady : following.screen.Steady) (event : FollowingEvent R α) :
    (following.after event).screen.Steady := by
  cases sent : following.message? event with
  | none =>
      rw [(after_of_no_message works sent).1]
      exact steady
  | some message =>
      rw [(after_of_message sent).1]
      exact steady.update message _

theorem next_after_le {following : Following R α σ} (works : Works following.store)
    (behind : following.subscription.next ≤ (reported following.store).length)
    (event : FollowingEvent R α) :
    (following.after event).subscription.next ≤
      (reported (following.after event).store).length := by
  have grown := (works_after works event).2.grown.length_le
  cases event with
  | hears message => exact Nat.le_trans behind grown
  | elsewhere access => exact Nat.le_trans behind grown
  | polls =>
      cases found : following.upcoming? with
      | none => rw [after_polls_of_none found]; exact behind
      | some change =>
          have inside : following.position < (reported following.store).length :=
            (List.getElem?_eq_some_iff.mp found).1
          refine Nat.le_trans ?_ grown
          rw [after_polls_of_some found]
          exact inside

/-- A change that is awaited stays so until the screen hears of it or passes over it. -/
theorem awaited_after {following : Following R α σ} (works : Works following.store)
    {unread : Unread} (event : FollowingEvent R α) {change : Change}
    (awaits : change ∈ following.awaited unread) :
    change ∈ (following.after event).awaited unread ∨
      change ∈ following.passed unread.since event ∨
        event = .polls ∧ following.upcoming? = some change := by
  have lasting {items : List Change} (grown : reported following.store <+: items) :
      change ∈ items.drop (max unread.since following.subscription.next) := by
    obtain ⟨position, later, here⟩ := mem_drop_iff.mp awaits
    obtain ⟨more, rfl⟩ := grown
    exact mem_drop_iff.mpr ⟨position, later, by
      rw [List.getElem?_append_left (List.getElem?_eq_some_iff.mp here).1]; exact here⟩
  have grown := (works_after works event).2.grown
  cases event with
  | hears message => exact .inl (lasting grown)
  | elsewhere access => exact .inl (lasting grown)
  | polls =>
      obtain ⟨position, later, here⟩ := mem_drop_iff.mp awaits
      cases found : following.upcoming? with
      | none =>
          rw [after_polls_of_none found]
          exact .inl awaits
      | some next =>
          rcases Nat.lt_trichotomy position following.position with before | rfl | behind
          · -- the feed had dropped it
            refine .inr (.inl (mem_drop_iff.mpr ⟨position, later, ?_⟩))
            rw [List.getElem?_take_of_lt before]
            exact here
          · exact .inr (.inr ⟨rfl, found.symm.trans here⟩)
          · left
            obtain ⟨more, items⟩ := grown
            refine mem_drop_iff.mpr ⟨position, ?_, ?_⟩
            · rw [after_polls_of_some found]
              exact Nat.max_le.mpr ⟨Nat.le_trans (Nat.le_max_left _ _) later, behind⟩
            · rw [← items, List.getElem?_append_left (List.getElem?_eq_some_iff.mp here).1]
              exact here

/-! ## Runs -/

/-- The screen is up to date, or a change that it should hear of is awaited or was missed. -/
structure Attentive (following : Following R α σ) (unread : Unread) : Prop where
  works : Works following.store
  steady : following.screen.Steady
  behind : following.subscription.next ≤ (reported following.store).length
  since : unread.since ≤ (reported following.store).length
  current : following.screen.UpToDate following.store ∨
    ∃ change, (change ∈ following.awaited unread ∨ change ∈ unread.missed) ∧
      following.screen.ReadsFrom change

theorem attentive_opened {store : σ} (works : Works store) (name : String)
    (sort : SortState (Record.SortField R)) (config : Settings α)
    (meanwhile : List StoreAccess) :
    let opened : Following R α σ := opened name sort config store meanwhile
    opened.Attentive ⟨(reported opened.store).length, []⟩ := by
  intro opened
  obtain ⟨worksLater, tellsLater⟩ := tells_accessed works meanwhile
  have tells : Tells store opened.store :=
    tellsLater.trans (Screen.tells_new worksLater name sort config)
  constructor
  case works => exact Screen.works_new worksLater name sort config
  case steady => exact Screen.steady_new name sort config _
  case behind => exact tells.grown.length_le
  case since => exact Nat.le_refl _
  case current => exact .inl (Screen.upToDate_new worksLater name sort config)

/-- What was reported with an event is awaited after it, unless the screen was given a change. -/
theorem awaited_of_toldOf {following : Following R α σ} {unread : Unread}
    (attentive : following.Attentive unread) {event : FollowingEvent R α}
    (kept : (following.after event).subscription = following.subscription)
    (told : following.screen.ToldOf following.store (following.after event).store) :
    ∃ change ∈ (following.after event).awaited unread, following.screen.ReadsFrom change := by
  obtain ⟨change, late, reads⟩ := told
  have known : max unread.since following.subscription.next ≤
      (reported following.store).length := Nat.max_le.mpr ⟨attentive.since, attentive.behind⟩
  refine ⟨change, ?_, reads⟩
  rw [awaited, kept]
  exact List.drop_subset_drop_left _ known late

omit [WorkingStore σ] in
theorem readsFrom_after (following : Following R α σ) (event : FollowingEvent R α)
    (change : Change) :
    (following.after event).screen.ReadsFrom change ↔ following.screen.ReadsFrom change := by
  rw [Screen.ReadsFrom, Screen.ReadsFrom, name_after]

omit [Coordinate α] [WorkingStore σ] in
theorem reads_polls_of_readsFrom {following : Following R α σ} {change : Change}
    (found : following.upcoming? = some change) (own : following.screen.ReadsFrom change) :
    following.reads .polls = true := by
  simp [reads, message?, found, Screen.reads, Screen.rereads, Screen.owns_of_readsFrom own]

omit [WorkingStore σ] in
/-- A change of another screen's preferences leaves screen and store as they are. -/
theorem after_polls_of_blind {following : Following R α σ}
    (blind : following.reads .polls = false) :
    (following.after .polls).screen = following.screen ∧
      (following.after .polls).store = following.store := by
  cases found : following.upcoming? with
  | none =>
      rw [after_polls_of_none found]
      exact ⟨rfl, rfl⟩
  | some change =>
      have foreign : ¬ following.screen.Owns change := by
        simpa [reads, message?, found, Screen.reads, Screen.rereads, Message.isReset] using blind
      rw [after_polls_of_some found]
      simp only [afterMessage, Screen.update, Screen.quiet, Screen.receiveChange_of_foreign foreign,
        and_self]

theorem upToDate_after_of_reads {following : Following R α σ} (works : Works following.store)
    (steady : following.screen.Steady) {event : FollowingEvent R α}
    (reads : following.reads event = true) :
    (following.after event).screen.UpToDate (following.after event).store := by
  unfold Following.reads at reads
  cases sent : following.message? event with
  | none => simp [sent] at reads
  | some message =>
      rw [sent] at reads
      obtain ⟨screen, store⟩ := after_of_message sent
      rw [screen, store]
      exact Screen.upToDate_update_of_reads works steady reads

theorem upToDate_after_or_awaited {following : Following R α σ} {unread : Unread}
    (attentive : following.Attentive unread) {event : FollowingEvent R α}
    (blind : following.reads event = false)
    (upToDate : following.screen.UpToDate following.store) :
    (following.after event).screen.UpToDate (following.after event).store ∨
      ∃ change ∈ (following.after event).awaited unread, following.screen.ReadsFrom change := by
  have works := attentive.works
  have steady := attentive.steady
  cases event with
  | hears message =>
      rcases upToDate.update_or_toldOf works steady blind with still | told
      · exact .inl still
      · exact .inr (awaited_of_toldOf attentive rfl told)
  | polls =>
      obtain ⟨screen, store⟩ := after_polls_of_blind blind
      rw [screen, store]
      exact .inl upToDate
  | elsewhere access =>
      have tells := tells_access works access
      rcases upToDate.later_or_toldOf works (works_access works access) steady tells with
        still | told
      · exact .inl still
      · exact .inr (awaited_of_toldOf attentive rfl told)

theorem Attentive.after {following : Following R α σ} {unread : Unread}
    (attentive : following.Attentive unread) (event : FollowingEvent R α) :
    (following.after event).Attentive (following.noted unread event) := by
  have works := attentive.works
  have steady := attentive.steady
  obtain ⟨worksLater, tells⟩ := works_after works event
  have steadyLater := steady_after works steady event
  have behindLater := next_after_le works attentive.behind event
  by_cases reads : following.reads event = true
  · have noted : following.noted unread event =
        ⟨(reported (following.after event).store).length, []⟩ := if_pos reads
    rw [noted]
    exact ⟨worksLater, steadyLater, behindLater, Nat.le_refl _,
      .inl (upToDate_after_of_reads works steady reads)⟩
  · have blind : following.reads event = false := Bool.eq_false_iff.mpr reads
    have noted : following.noted unread event =
        { unread with missed := unread.missed ++ following.passed unread.since event } :=
      if_neg reads
    rw [noted]
    refine ⟨worksLater, steadyLater, behindLater,
      Nat.le_trans attentive.since tells.grown.length_le, ?_⟩
    simp only [readsFrom_after]
    rcases attentive.current with upToDate | ⟨change, waiting | missed, own⟩
    · rcases upToDate_after_or_awaited attentive blind upToDate with still | ⟨change, waiting, own⟩
      · exact .inl still
      · exact .inr ⟨change, .inl waiting, own⟩
    · right
      rcases awaited_after works event waiting with still | passed | ⟨rfl, found⟩
      · exact ⟨change, .inl still, own⟩
      · exact ⟨change, .inr (List.mem_append_right _ passed), own⟩
      · exact absurd (reads_polls_of_readsFrom found own) reads
    · exact .inr ⟨change, .inr (List.mem_append_left _ missed), own⟩

theorem Attentive.run {following : Following R α σ} {unread : Unread}
    (attentive : following.Attentive unread) (events : List (FollowingEvent R α)) :
    (following.run events).Attentive (following.unread unread events) := by
  induction events generalizing following unread with
  | nil => exact attentive
  | cons event rest later => exact later (attentive.after event)

omit [Coordinate α] [WorkingStore σ] in
/-- Nothing is awaited by a screen for which nothing is pending. -/
theorem awaited_of_drained {following : Following R α σ} (drained : following.pending = 0)
    (unread : Unread) : following.awaited unread = [] := by
  have heard : (reported following.store).length ≤ following.subscription.next :=
    Nat.sub_eq_zero_iff_le.mp drained
  exact List.drop_eq_nil_of_le (Nat.le_trans heard (Nat.le_max_right _ _))

omit [Coordinate α] in
theorem Attentive.upToDate_of_drained {following : Following R α σ} {unread : Unread}
    (attentive : following.Attentive unread) (drained : following.pending = 0)
    (heard : ∀ change ∈ unread.missed, ¬ following.screen.ReadsFrom change) :
    following.screen.UpToDate following.store := by
  rcases attentive.current with upToDate | ⟨change, waiting | missed, own⟩
  · exact upToDate
  · rw [awaited_of_drained drained] at waiting
    cases waiting
  · exact absurd own (heard change missed)

/-- A screen for which nothing is pending is up to date, unless a change of a text that it reads from
was dropped before the screen came to it, and the screen has not read its choices since. -/
theorem drained_screen_is_current {store : σ} (works : Works store) (name : String)
    (sort : SortState (Record.SortField R)) (config : Settings α)
    (meanwhile : List StoreAccess) (events : List (FollowingEvent R α)) :
    let opened : Following R α σ := opened name sort config store meanwhile
    let final := opened.run events
    let unread := opened.unread ⟨(reported opened.store).length, []⟩ events
    final.pending = 0 → (∀ change ∈ unread.missed, ¬ final.screen.ReadsFrom change) →
      final.screen.UpToDate final.store := by
  intro opened final unread drained heard
  have attentive : final.Attentive unread :=
    (attentive_opened works name sort config meanwhile).run events
  exact attentive.upToDate_of_drained drained heard

/-- Somebody pins the groups, and so much is written for another screen that the feed drops both
changes before the screen is given any. -/
def flooded : List (FollowingEvent Account Float) :=
  [.elsewhere (.write "accounts.view_mode" "grouped"),
      .elsewhere (.write "accounts.view_mode_auto" "false")] ++
    List.replicate 64 (.elsewhere (.write "emails.density" "minimal")) ++
    List.replicate 64 .polls

def floodedStart : Following Account Float MemoryStore :=
  opened "accounts" (.ascending AccountSortField.email) .standard .new []

/-- With the next change of its own preferences the screen hears of the pin as well. -/
theorem drained_after_flood :
    let relief : List (FollowingEvent Account Float) :=
      [.elsewhere (.write "accounts.density" "minimal"), .polls]
    let final := floodedStart.run (flooded ++ relief)
    final.screen.viewMode.kind = .pinned ∧ final.screen.UpToDate final.store := by
  intro relief final
  have works : Works MemoryStore.new := trivial
  have current := drained_screen_is_current works "accounts"
    (.ascending AccountSortField.email) (Settings.standard (α := Float)) [] (flooded ++ relief)
  have facts : (final.pending = 0 ∧ final.screen.viewMode.kind = .pinned) ∧
      (floodedStart.unread ⟨1, []⟩ (flooded ++ relief)).missed = [] := by
    decide +kernel
  obtain ⟨⟨drained, pinned⟩, heard⟩ := facts
  exact ⟨pinned, current drained (fun change missed => absurd (heard ▸ missed) List.not_mem_nil)⟩

/-- Until then nothing is pending and the screen has no pin. -/
theorem flooded_screen_misses_pin :
    let final := floodedStart.run flooded
    final.pending = 0 ∧ final.screen.viewMode.kind = .auto ∧
      storedChoice ViewModePolicy final.store "accounts" = ⟨some "false", some "grouped"⟩ ∧
      ¬ final.screen.UpToDate final.store := by
  decide +kernel

/-- Whenever the screen is given a change, the feed still keeps all that it has not heard of. -/
def Punctual (following : Following R α σ) : List (FollowingEvent R α) → Prop
  | [] => True
  | event :: rest =>
      (event = .polls →
          (PreferenceStore.feed following.store).oldest ≤ following.subscription.next) ∧
        (following.after event).Punctual rest

omit [Coordinate α] [WorkingStore σ] in
theorem passed_of_kept {following : Following R α σ} {event : FollowingEvent R α}
    (kept : event = .polls →
      (PreferenceStore.feed following.store).oldest ≤ following.subscription.next)
    (since : Nat) : following.passed since event = [] := by
  cases event with
  | hears message => rfl
  | elsewhere access => rfl
  | polls =>
      have here : following.position = following.subscription.next :=
        ChangeFeed.position_of_oldest_le (kept rfl)
      rw [passed, here]
      refine List.drop_eq_nil_of_le (Nat.le_trans ?_ (Nat.le_max_right _ _))
      exact List.length_take_le _ _

omit [WorkingStore σ] in
theorem Punctual.missed {following : Following R α σ} {events : List (FollowingEvent R α)}
    (punctual : following.Punctual events) {earlier : Unread} (heard : earlier.missed = []) :
    (following.unread earlier events).missed = [] := by
  induction events generalizing following earlier with
  | nil => exact heard
  | cons event rest later =>
      obtain ⟨kept, punctualLater⟩ := punctual
      refine later punctualLater ?_
      unfold noted
      split
      · rfl
      · rw [heard, passed_of_kept kept]
        rfl

/-- A screen that is given its changes in time misses nothing, whatever others write. -/
theorem punctual_screen_is_current {store : σ} (works : Works store) (name : String)
    (sort : SortState (Record.SortField R)) (config : Settings α)
    (meanwhile : List StoreAccess) (events : List (FollowingEvent R α)) :
    let opened : Following R α σ := opened name sort config store meanwhile
    let final := opened.run events
    opened.Punctual events → final.pending = 0 → final.screen.UpToDate final.store := by
  intro opened final punctual drained
  have attentive := (attentive_opened works name sort config meanwhile).run events
  refine attentive.upToDate_of_drained drained ?_
  intro change missed
  rw [punctual.missed rfl] at missed
  cases missed

end Following

end AdaptiveView

import AdaptiveView.Proofs.Preference.Working

/-!
# What a working store reports

Whoever reads, writes or removes in a store that works, nothing that was reported is taken back, and a
key that has another text than before has been reported since.  The converse does not hold: a write is
reported even where it changes nothing.

A subscriber hears of the changes in order.  It goes on with the first change that it has not heard of
and that is still kept.
-/

set_option autoImplicit false

namespace AdaptiveView

open WorkingStore

/-- One thing that anybody can do to a store. -/
inductive StoreAccess where
  | read (key : String)
  | write (key value : String)
  | remove (key : String)

theorem mem_drop_iff {T : Type} {items : List T} {start : Nat} {item : T} :
    item ∈ items.drop start ↔ ∃ position, start ≤ position ∧ items[position]? = some item := by
  rw [List.mem_iff_getElem?]
  constructor
  · rintro ⟨offset, found⟩
    exact ⟨start + offset, Nat.le_add_right _ _, by rwa [List.getElem?_drop] at found⟩
  · rintro ⟨position, later, found⟩
    refine ⟨position - start, ?_⟩
    rw [List.getElem?_drop, Nat.add_sub_cancel' later, found]

section
variable {σ : Type} [PreferenceStore σ]

def StoreAccess.on (store : σ) : StoreAccess → σ
  | .read key => (PreferenceStore.read store key).2
  | .write key value => (PreferenceStore.write store key value).2
  | .remove key => (PreferenceStore.remove store key).2

def accessed (store : σ) : List StoreAccess → σ
  | [] => store
  | access :: rest => accessed (access.on store) rest

/-- All changes that a store has ever reported, in order. -/
def reported (store : σ) : List Change :=
  (PreferenceStore.feed store).changes.toList

end

namespace ChangeFeed

/-- The position of the change that a subscriber hears of next. -/
def position (feed : ChangeFeed) (subscription : Subscription) : Nat :=
  max subscription.next feed.oldest

theorem receive_of_some {feed : ChangeFeed} {next : Nat} {c : Change}
    (kept : feed.oldest ≤ next) (found : feed.changes[next]? = some c) :
    feed.receive ⟨next⟩ = (.change c, ⟨next + 1⟩) := by
  unfold receive
  rw [if_neg (Nat.not_lt.mpr kept), found]

theorem receive_of_none {feed : ChangeFeed} {next : Nat} (kept : feed.oldest ≤ next)
    (absent : feed.changes[next]? = none) :
    feed.receive ⟨next⟩ = (if feed.isClosed then .closed else .empty, ⟨next⟩) := by
  unfold receive
  rw [if_neg (Nat.not_lt.mpr kept), absent]

theorem position_of_oldest_le {feed : ChangeFeed} {next : Nat} (kept : feed.oldest ≤ next) :
    feed.position ⟨next⟩ = next := by
  unfold position
  exact Nat.max_eq_left kept

theorem position_of_lt_oldest {feed : ChangeFeed} {next : Nat} (behind : next < feed.oldest) :
    feed.position ⟨next⟩ = feed.oldest := by
  unfold position
  exact Nat.max_eq_right (Nat.le_of_lt behind)

/-- What was missed is passed over, and what follows it is received. -/
theorem nextChange_eq_receive (feed : ChangeFeed) (subscription : Subscription) :
    feed.nextChange subscription = feed.receive ⟨feed.position subscription⟩ := by
  obtain ⟨next⟩ := subscription
  unfold nextChange
  by_cases kept : feed.oldest ≤ next
  · rw [position_of_oldest_le kept]
    cases found : feed.changes[next]? with
    | some c => rw [receive_of_some kept found]
    | none =>
        rw [receive_of_none kept found]
        cases feed.isClosed <;> rfl
  · have behind : next < feed.oldest := Nat.lt_of_not_le kept
    have lagged : feed.receive ⟨next⟩ = (.lagged (feed.oldest - next), ⟨feed.oldest⟩) := by
      unfold receive
      rw [if_pos behind]
    rw [position_of_lt_oldest behind, lagged]

theorem nextChange_of_some {feed : ChangeFeed} {subscription : Subscription} {c : Change}
    (found : feed.changes[feed.position subscription]? = some c) :
    feed.nextChange subscription = (.change c, ⟨feed.position subscription + 1⟩) := by
  rw [nextChange_eq_receive]
  exact receive_of_some (Nat.le_max_right _ _) found

theorem nextChange_of_none {feed : ChangeFeed} {subscription : Subscription}
    (absent : feed.changes[feed.position subscription]? = none) :
    feed.nextChange subscription =
      (if feed.isClosed then .closed else .empty, ⟨feed.position subscription⟩) := by
  rw [nextChange_eq_receive]
  exact receive_of_none (Nat.le_max_right _ _) absent

end ChangeFeed

section
variable {σ : Type} [PreferenceStore σ] [WorkingStore σ]

/-- The later state of a store has reported whatever became of the earlier one. -/
structure Tells (earlier later : σ) : Prop where
  grown : reported earlier <+: reported later
  told : ∀ key, content later key ≠ content earlier key →
    ∃ change ∈ (reported later).drop (reported earlier).length, change.key = key

theorem Tells.refl (store : σ) : Tells store store :=
  ⟨List.prefix_refl _, fun _ changed => absurd rfl changed⟩

theorem Tells.trans {first second third : σ} (one : Tells first second)
    (two : Tells second third) : Tells first third := by
  refine ⟨one.grown.trans two.grown, ?_⟩
  intro key changed
  by_cases same : content second key = content first key
  · rw [← same] at changed
    obtain ⟨change, late, here⟩ := two.told key changed
    exact ⟨change, List.drop_subset_drop_left _ one.grown.length_le late, here⟩
  · obtain ⟨change, early, here⟩ := one.told key same
    obtain ⟨more, grown⟩ := two.grown
    refine ⟨change, ?_, here⟩
    rw [← grown, List.drop_append_of_le_length one.grown.length_le]
    exact List.mem_append_left more early

/-- What is done to one key and reported once. -/
theorem tells_of_report {earlier later : σ} {key : String} {value : Option String}
    (feed : PreferenceStore.feed later = (PreferenceStore.feed earlier).report key value)
    (others : ∀ other, other ≠ key → content later other = content earlier other) :
    Tells earlier later := by
  have more : reported later = reported earlier ++ [⟨key, value⟩] := by
    simp [reported, feed, ChangeFeed.report]
  refine ⟨⟨_, more.symm⟩, ?_⟩
  intro other changed
  have here : other = key :=
    Decidable.byContradiction fun elsewhere => changed (others other elsewhere)
  refine ⟨⟨key, value⟩, ?_, here.symm⟩
  simp [more]

theorem tells_of_silence {earlier later : σ}
    (feed : PreferenceStore.feed later = PreferenceStore.feed earlier)
    (same : content later = content earlier) : Tells earlier later := by
  constructor
  · simp only [reported, feed, List.prefix_refl]
  · intro key changed
    exact absurd (congrFun same key) changed

variable {store : σ}

theorem tells_read (works : Works store) (key : String) :
    Tells store (PreferenceStore.read store key).2 :=
  tells_of_silence (feed_read key works) (content_read key works)

theorem tells_write (works : Works store) (key value : String) :
    Tells store (PreferenceStore.write store key value).2 := by
  refine tells_of_report (feed_write key value works) ?_
  intro other elsewhere
  rw [content_write key value other works, if_neg elsewhere]

theorem tells_remove (works : Works store) (key : String) :
    Tells store (PreferenceStore.remove store key).2 := by
  have feed := feed_remove key works
  have contents := fun other => content_remove key other works
  by_cases present : (content store key).isSome
  · rw [if_pos present] at feed
    refine tells_of_report feed ?_
    intro other elsewhere
    rw [contents, if_neg elsewhere]
  · -- nothing to remove, and nothing is said
    rw [if_neg present] at feed
    refine tells_of_silence feed ?_
    funext other
    rw [contents]
    split
    case isTrue here =>
      rw [here]
      exact (Option.not_isSome_iff_eq_none.mp present).symm
    case isFalse => rfl

theorem works_access (works : Works store) (access : StoreAccess) : Works (access.on store) := by
  cases access with
  | read key => exact works_read key works
  | write key value => exact works_write key value works
  | remove key => exact works_remove key works

theorem tells_access (works : Works store) (access : StoreAccess) :
    Tells store (access.on store) := by
  cases access with
  | read key => exact tells_read works key
  | write key value => exact tells_write works key value
  | remove key => exact tells_remove works key

theorem tells_accessed (works : Works store) (accesses : List StoreAccess) :
    Works (accessed store accesses) ∧ Tells store (accessed store accesses) := by
  induction accesses generalizing store with
  | nil => exact ⟨works, .refl store⟩
  | cons access rest later =>
      obtain ⟨worksLater, tellsLater⟩ := later (works_access works access)
      exact ⟨worksLater, (tells_access works access).trans tellsLater⟩

theorem tells_forgetScreen (works : Works store) (screen : String) (names : List String) :
    Tells store (forgetScreen store screen names) := by
  unfold forgetScreen
  induction names generalizing store with
  | nil => exact .refl store
  | cons name rest later => exact (tells_remove works _).trans (later (works_remove _ works))

theorem tells_upgradeScreen (works : Works store) (screen : String) (names : List String) :
    Tells store (upgradeScreen store screen names).2 := by
  have checked := works_read (versionKey screen) works
  have first := tells_read works (versionKey screen)
  rw [upgradeScreen_snd works]
  dsimp only
  split
  · exact first
  · split
    · exact first.trans ((tells_forgetScreen checked screen names).trans
        (tells_write (works_forgetScreen checked screen names) _ _))
    · exact first.trans (tells_write checked _ _)

end

end AdaptiveView

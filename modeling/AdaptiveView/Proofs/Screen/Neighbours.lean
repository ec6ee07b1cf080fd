import AdaptiveView.Listing
import AdaptiveView.Proofs.Screen.Footprint
import AdaptiveView.Screen.Plan

/-!
# Screens of both lists on one store

The screen of the accounts and that of the messages share a store.  Each is opened any number of times,
over whatever the store holds by then, and their messages interleave in any way, the changes of either's
preferences among them.

Neither notices the other.  What a screen is at any point of such a run, and what the store tells of the
keys that begin with its name, is what it would be had it been alone and had never heard of a change
under another name.
-/

set_option autoImplicit false

namespace AdaptiveView

open WorkingStore

/-- No key begins with both names. -/
def Apart (name other : String) : Prop :=
  ∀ key, Under name key → ¬ Under other key

theorem apart_of_not_prefix {name other : String}
    (forth : ¬ (name ++ ".").toList <+: (other ++ ".").toList)
    (back : ¬ (other ++ ".").toList <+: (name ++ ".").toList) : Apart name other := by
  intro key mine theirs
  have here : (name ++ ".").toList <+: key.toList := List.isPrefixOf_iff_prefix.mp mine
  have there : (other ++ ".").toList <+: key.toList := List.isPrefixOf_iff_prefix.mp theirs
  rcases List.prefix_or_prefix_of_prefix here there with longer | shorter
  · exact forth longer
  · exact back shorter

theorem Apart.symm {name other : String} (apart : Apart name other) : Apart other name :=
  fun key theirs mine => apart key mine theirs

/-! ## One screen -/

inductive ScreenEvent (R : Type) [Record R] (α : Type) where
  /-- The screen is opened, for the first time or again. -/
  | opens (config : Settings α)
  | hears (message : Message R α)

namespace ScreenEvent

variable {R : Type} [Record R] {α : Type}

/-- The screen hears of a change under another name. -/
def IsForeign (name : String) : ScreenEvent R α → Prop
  | .hears (.preferenceChanged change) => ¬ Under name change.key
  | _ => False

instance (name : String) : DecidablePred (IsForeign name : ScreenEvent R α → Prop) := fun event =>
  match event with
  | .opens _ => .isFalse id
  | .hears message => by
      cases message
      case preferenceChanged change => exact inferInstanceAs (Decidable (¬ _))
      all_goals exact .isFalse id

end ScreenEvent

/-- A screen, once it has been opened, and its store. -/
structure Solo (R : Type) [Record R] (α σ : Type) where
  screen? : Option (Screen R α)
  store : σ

namespace Solo

variable {R : Type} [Record R] [Listing R] {α σ : Type} [Coordinate α] [PreferenceStore σ]

def after (solo : Solo R α σ) : ScreenEvent R α → Solo R α σ
  | .opens config =>
      let (screen, store) := Screen.ofListing R config solo.store
      ⟨some screen, store⟩
  | .hears message =>
      match solo.screen? with
      | none => solo
      | some screen =>
          let turn := screen.update message solo.store
          ⟨some turn.screen, turn.store⟩

def run (solo : Solo R α σ) : List (ScreenEvent R α) → Solo R α σ
  | [] => solo
  | event :: rest => (solo.after event).run rest

def Own (screen? : Option (Screen R α)) : Prop :=
  ∀ screen ∈ screen?, screen.Rooted ∧ screen.name = Listing.screenName R

theorem own_after {solo : Solo R α σ} (own : Own solo.screen?) (event : ScreenEvent R α) :
    Own (solo.after event).screen? := by
  cases event with
  | opens config =>
      rintro screen ⟨rfl⟩
      exact ⟨Screen.rooted_new _ _ _ _, rfl⟩
  | hears message =>
      cases present : solo.screen? with
      | none =>
          have still : solo.after (.hears message) = solo := by simp [after, present]
          rw [still]
          exact own
      | some screen =>
          obtain ⟨rooted, name⟩ := own screen present
          have next : (solo.after (.hears message)).screen? =
              some (screen.update message solo.store).screen := by simp [after, present]
          rw [next]
          rintro later ⟨rfl⟩
          exact ⟨rooted.update message solo.store, (Screen.name_update _ _ _).trans name⟩

/-- What an event does to the store. -/
def accesses (solo : Solo R α σ) : ScreenEvent R α → List StoreAccess
  | .opens _ =>
      Screen.openingAccesses (Listing.screenName R)
        (PreferenceStore.read solo.store (versionKey (Listing.screenName R))).1
  | .hears message =>
      match solo.screen? with
      | none => []
      | some screen => screen.accesses message

theorem store_after_eq_accessed (solo : Solo R α σ) (event : ScreenEvent R α) :
    (solo.after event).store = accessed solo.store (solo.accesses event) := by
  cases event with
  | opens config =>
      exact Screen.store_new_eq_accessed _ (Listing.initialSort (R := R)) config solo.store
  | hears message =>
      cases present : solo.screen? with
      | none => simp [after, accesses, present, accessed]
      | some screen =>
          have next : (solo.after (.hears message)).store =
              (screen.update message solo.store).store := by simp [after, present]
          rw [next, Screen.store_update_eq_accessed, accesses, present]

omit [Coordinate α] in
theorem under_accesses {solo : Solo R α σ} (own : Own solo.screen?) {event : ScreenEvent R α}
    {access : StoreAccess} (among : access ∈ solo.accesses event) :
    Under (Listing.screenName R) access.key := by
  cases event with
  | opens config => exact Screen.under_openingAccesses among
  | hears message =>
      rw [accesses] at among
      cases present : solo.screen? with
      | none =>
          rw [present] at among
          cases among
      | some screen =>
          rw [present] at among
          obtain ⟨rooted, name⟩ := own screen present
          rw [← name]
          exact Screen.under_accesses rooted among

variable [WorkingStore σ]

/-- Two stores on which a screen of this list is the same. -/
structure Matches (one other : Solo R α σ) : Prop where
  screens : one.screen? = other.screen?
  own : Own one.screen?
  agree : TellAlike (Under (Listing.screenName R)) one.store other.store

omit [Coordinate α] in
theorem matches_unopened {store : σ} (works : Works store) :
    Matches (⟨none, store⟩ : Solo R α σ) ⟨none, store⟩ := by
  refine ⟨rfl, ?_, .refl works⟩
  intro screen present
  cases present

omit [Coordinate α] in
theorem Matches.otherOwn {one other : Solo R α σ} (alike : one.Matches other) :
    Own other.screen? :=
  alike.screens ▸ alike.own

omit [Coordinate α] in
theorem Matches.accesses_eq {one other : Solo R α σ} (alike : one.Matches other)
    (event : ScreenEvent R α) : one.accesses event = other.accesses event := by
  cases event with
  | opens config =>
      have version : (PreferenceStore.read one.store (versionKey (Listing.screenName R))).1 = _ :=
        alike.agree.read (under_screenKey _ _)
      rw [accesses, accesses, version]
  | hears message => rw [accesses, accesses, alike.screens]

theorem Matches.after {one other : Solo R α σ} (alike : one.Matches other)
    (event : ScreenEvent R α) : (one.after event).Matches (other.after event) := by
  refine ⟨?_, own_after alike.own event, ?_⟩
  · cases event with
    | opens config =>
        have opened := Screen.new_of_agreeOn alike.agree.toAgreeOn
          (Listing.initialSort (R := R)) config
        exact congrArg some opened
    | hears message =>
        cases present : one.screen? with
        | none =>
            have absent : other.screen? = none := alike.screens ▸ present
            simp only [Solo.after, present, absent]
        | some screen =>
            have there : other.screen? = some screen := alike.screens ▸ present
            have name := (alike.own screen present).2
            have agree : TellAlike (Under screen.name) one.store other.store := name ▸ alike.agree
            have read := Screen.reading?_of_agreeOn agree.toAgreeOn message
            have same := Screen.update_congr screen message read
            simp only [Solo.after, present, there, same]
  · rw [store_after_eq_accessed, store_after_eq_accessed, ← alike.accesses_eq event]
    exact alike.agree.accessed (fun access among => under_accesses alike.own among)

omit [WorkingStore σ] in
/-- A change under another name passes a screen by. -/
theorem after_of_isForeign {solo : Solo R α σ} (own : Own solo.screen?) {event : ScreenEvent R α}
    (foreign : event.IsForeign (Listing.screenName R)) : solo.after event = solo := by
  cases event with
  | opens config => cases foreign
  | hears message =>
      cases message with
      | preferenceChanged change =>
          cases present : solo.screen? with
          | none => simp only [Solo.after, present]
          | some screen =>
              have name := (own screen present).2
              have unowned : ¬ screen.Owns change := by
                rw [Screen.Owns, name]
                exact foreign
              simp only [Solo.after, present, Screen.update, Screen.quiet,
                Screen.receiveChange_of_foreign unowned]
              rw [← present]
      | _ => cases foreign

omit [Coordinate α] in
theorem Matches.elsewhere {one other : Solo R α σ} (alike : one.Matches other) {later : σ}
    (unseen : TellAlike (Under (Listing.screenName R)) later one.store) :
    Matches ⟨one.screen?, later⟩ other :=
  ⟨alike.screens, alike.own, unseen.trans alike.agree⟩

/-- Nothing that a screen of this list does is seen under a name apart from its own. -/
theorem tellAlike_after {name : String} (apart : Apart (Listing.screenName R) name)
    {solo : Solo R α σ} (works : Works solo.store) (own : Own solo.screen?)
    (event : ScreenEvent R α) : TellAlike (Under name) (solo.after event).store solo.store := by
  rw [store_after_eq_accessed]
  refine tellAlike_accessed_of_elsewhere works ?_
  intro access among
  exact apart access.key (under_accesses own among)

end Solo

/-! ## Both screens -/

section Runs
variable (R S : Type) [Record R] [Record S] (α σ : Type)

structure Neighbours where
  first? : Option (Screen R α)
  second? : Option (Screen S α)
  store : σ

inductive NeighbourEvent where
  | first (event : ScreenEvent R α)
  | second (event : ScreenEvent S α)

end Runs

namespace NeighbourEvent

variable {R S : Type} [Record R] [Listing R] [Record S] [Listing S] {α : Type}

/-- What is left of an event if there is only the first screen, and it hears of no change under
another name. -/
def forFirst? : NeighbourEvent R S α → Option (ScreenEvent R α)
  | .first event => if event.IsForeign (Listing.screenName R) then none else some event
  | .second _ => none

def forSecond? : NeighbourEvent R S α → Option (ScreenEvent S α)
  | .first _ => none
  | .second event => if event.IsForeign (Listing.screenName S) then none else some event

end NeighbourEvent

namespace Neighbours

variable {R S : Type} [Record R] [Listing R] [Record S] [Listing S] {α σ : Type} [Coordinate α]
  [PreferenceStore σ]

def first (both : Neighbours R S α σ) : Solo R α σ :=
  ⟨both.first?, both.store⟩

def second (both : Neighbours R S α σ) : Solo S α σ :=
  ⟨both.second?, both.store⟩

def after (both : Neighbours R S α σ) : NeighbourEvent R S α → Neighbours R S α σ
  | .first event =>
      let next := both.first.after event
      { both with first? := next.screen?, store := next.store }
  | .second event =>
      let next := both.second.after event
      { both with second? := next.screen?, store := next.store }

def run (both : Neighbours R S α σ) : List (NeighbourEvent R S α) → Neighbours R S α σ
  | [] => both
  | event :: rest => (both.after event).run rest

variable [WorkingStore σ]

/-- Each of two screens is what it would be alone. -/
structure Undisturbed (both : Neighbours R S α σ) (one : Solo R α σ) (two : Solo S α σ) :
    Prop where
  first : both.first.Matches one
  second : both.second.Matches two

theorem Undisturbed.after_first (apart : Apart (Listing.screenName R) (Listing.screenName S))
    {both : Neighbours R S α σ} {one : Solo R α σ} {two : Solo S α σ}
    (undisturbed : both.Undisturbed one two) (event : ScreenEvent R α) :
    (both.after (.first event)).Undisturbed (one.after event) two := by
  obtain ⟨first, second⟩ := undisturbed
  have unseen : TellAlike (Under (Listing.screenName S)) (both.first.after event).store both.store :=
    Solo.tellAlike_after apart first.agree.works first.own event
  exact ⟨first.after event, second.elsewhere unseen⟩

theorem Undisturbed.after_second (apart : Apart (Listing.screenName S) (Listing.screenName R))
    {both : Neighbours R S α σ} {one : Solo R α σ} {two : Solo S α σ}
    (undisturbed : both.Undisturbed one two) (event : ScreenEvent S α) :
    (both.after (.second event)).Undisturbed one (two.after event) := by
  obtain ⟨first, second⟩ := undisturbed
  have unseen : TellAlike (Under (Listing.screenName R)) (both.second.after event).store both.store :=
    Solo.tellAlike_after apart second.agree.works second.own event
  exact ⟨first.elsewhere unseen, second.after event⟩

theorem Undisturbed.run (apart : Apart (Listing.screenName R) (Listing.screenName S))
    {both : Neighbours R S α σ} {one : Solo R α σ} {two : Solo S α σ}
    (undisturbed : both.Undisturbed one two) (events : List (NeighbourEvent R S α)) :
    (both.run events).Undisturbed (one.run (events.filterMap NeighbourEvent.forFirst?))
      (two.run (events.filterMap NeighbourEvent.forSecond?)) := by
  induction events generalizing both one two with
  | nil => exact undisturbed
  | cons event rest later =>
      cases event with
      | first event =>
          have next := undisturbed.after_first apart event
          by_cases foreign : event.IsForeign (Listing.screenName R)
          · have passed : one.after event = one :=
              Solo.after_of_isForeign undisturbed.first.otherOwn foreign
            have dropped : (NeighbourEvent.first event : NeighbourEvent R S α).forFirst? = none :=
              if_pos foreign
            rw [passed] at next
            rw [List.filterMap_cons_none dropped, List.filterMap_cons_none rfl]
            exact later next
          · have kept : (NeighbourEvent.first event : NeighbourEvent R S α).forFirst? = some event :=
              if_neg foreign
            rw [List.filterMap_cons_some kept, List.filterMap_cons_none rfl]
            exact later next
      | second event =>
          have next := undisturbed.after_second apart.symm event
          by_cases foreign : event.IsForeign (Listing.screenName S)
          · have passed : two.after event = two :=
              Solo.after_of_isForeign undisturbed.second.otherOwn foreign
            have dropped : (NeighbourEvent.second event : NeighbourEvent R S α).forSecond? = none :=
              if_pos foreign
            rw [passed] at next
            rw [List.filterMap_cons_none rfl, List.filterMap_cons_none dropped]
            exact later next
          · have kept : (NeighbourEvent.second event : NeighbourEvent R S α).forSecond? =
                some event := if_neg foreign
            rw [List.filterMap_cons_none rfl, List.filterMap_cons_some kept]
            exact later next

end Neighbours

namespace Solo

variable {R : Type} [Record R] [Listing R] {α σ : Type} [Coordinate α] [PreferenceStore σ]
  [WorkingStore σ]

/-- A screen, its plans, and what the store holds and has reported under its name are those of a screen
that is alone on its store. -/
structure LikeAlone (one alone : Solo R α σ) : Prop where
  screen : one.screen? = alone.screen?
  plans : ∀ now, one.screen?.map (·.plan now) = alone.screen?.map (·.plan now)
  texts : ∀ key, Under (Listing.screenName R) key → content one.store key = content alone.store key
  changes :
    (reported one.store).filter (fun change => decide (Under (Listing.screenName R) change.key)) =
      (reported alone.store).filter
        (fun change => decide (Under (Listing.screenName R) change.key))

theorem Matches.likeAlone {one alone : Solo R α σ} (alike : one.Matches alone) :
    one.LikeAlone alone := by
  obtain ⟨screens, -, agree⟩ := alike
  refine ⟨screens, ?_, agree.texts, agree.reports⟩
  intro now
  rw [screens]

end Solo

namespace Neighbours

theorem apart_accounts_emails : Apart (Listing.screenName Account) (Listing.screenName Email) :=
  apart_of_not_prefix (by decide) (by decide)

/-- After whatever has happened to the two screens, in whatever order, each of them is as if it had been
alone on a store with the same contents from the start. -/
theorem neighbours_are_like_alone {α σ : Type} [Coordinate α] [PreferenceStore σ] [WorkingStore σ]
    {store : σ} (works : Works store) (events : List (NeighbourEvent Account Email α)) :
    let both := run ⟨none, none, store⟩ events
    both.first.LikeAlone (.run ⟨none, store⟩ (events.filterMap NeighbourEvent.forFirst?)) ∧
      both.second.LikeAlone (.run ⟨none, store⟩ (events.filterMap NeighbourEvent.forSecond?)) := by
  intro both
  have unopened : Undisturbed (⟨none, none, store⟩ : Neighbours Account Email α σ)
      ⟨none, store⟩ ⟨none, store⟩ :=
    ⟨Solo.matches_unopened works, Solo.matches_unopened works⟩
  have undisturbed := unopened.run apart_accounts_emails events
  exact ⟨undisturbed.first.likeAlone, undisturbed.second.likeAlone⟩

/-- A pin of the accounts from an older version, and a density of the messages from this one. -/
def outdatedStore : MemoryStore :=
  ⟨⟨[("accounts.prefs_version", "0"), ("accounts.view_mode", "grouped"),
    ("accounts.view_mode_auto", "false"), ("emails.prefs_version", "1"),
    ("emails.density", "minimal"), ("emails.density_auto", "false")]⟩, .new⟩

/-- Each screen is opened and hears of the other's changes; then the messages' preferences are dropped,
and both screens are opened again. -/
def crossedRun : List (NeighbourEvent Account Email Float) :=
  [.second (.opens .standard), .first (.opens .standard),
    .second (.hears (.preferenceChanged ⟨"accounts.view_mode", none⟩)),
    .first (.hears (.selectViewMode .flat)), .second (.hears (.selectViewMode .grouped)),
    .first (.hears (.preferenceChanged ⟨"emails.view_mode", some "grouped"⟩)),
    .second (.hears .resetPreferences), .first (.opens .standard), .second (.opens .standard)]

theorem crossed_screens_are_like_alone :
    let both := run ⟨none, none, outdatedStore⟩ crossedRun
    both.first?.map (fun screen => (screen.viewMode.kind, screen.viewMode.value)) =
        some (.pinned, .flat) ∧
      both.second?.map (fun screen => (screen.density.kind, screen.density.value)) =
        some (.auto, .detailed) ∧
      both.first.LikeAlone
          (.run ⟨none, outdatedStore⟩ (crossedRun.filterMap NeighbourEvent.forFirst?)) ∧
        both.second.LikeAlone
          (.run ⟨none, outdatedStore⟩ (crossedRun.filterMap NeighbourEvent.forSecond?)) := by
  intro both
  have works : Works outdatedStore := trivial
  exact ⟨by decide, by decide, neighbours_are_like_alone works crossedRun⟩

end Neighbours

end AdaptiveView

import AdaptiveView.Listing
import AdaptiveView.Proofs.Screen.Aligned
import AdaptiveView.Proofs.Screen.Choices
import Mathlib.Data.List.TakeWhile

/-!
# What a screen is about, and how it is shown

A screen with its store and the outbox for its intents.  Others may change the store at any time, and
the other side of the outbox may go.

Order, groups, choices, pages and scrolling are how a collection is shown, and so is whatever the store
tells.  None of this touches what a screen is about, which is its collection, its filters, what is
selected and what is busy, nor what it asks for.  In particular to select all that is visible is to
select what passes the filters, in the order of the collection.

A closed outbox is not noticed by the screen.
-/

set_option autoImplicit false

namespace AdaptiveView

/-- The message is about how the collection is shown. -/
def Message.presents {R : Type} [Record R] {α : Type} : Message R α → Bool
  | .sortBy _ | .groupBy _ => true
  | .selectViewMode _ | .autoViewMode | .selectDensity _ | .autoDensity => true
  | .setPage _ | .nextPage | .previousPage | .setPageSize _ => true
  | .scrolled _ | .viewportResized _ | .itemMeasured _ _ => true
  | .resetPreferences | .preferenceChanged _ => true
  | _ => false

namespace Screen

variable {R : Type} [Record R] {α : Type}

/-- Both screens are about the same, however they show it. -/
structure SameMatter (one other : Screen R α) : Prop where
  selection : one.selection = other.selection
  busy : one.busy = other.busy
  collection : one.collection = other.collection
  filters : one.filters = other.filters

theorem SameMatter.refl (screen : Screen R α) : screen.SameMatter screen :=
  ⟨rfl, rfl, rfl, rfl⟩

theorem SameMatter.trans {first second third : Screen R α} (one : first.SameMatter second)
    (two : second.SameMatter third) : first.SameMatter third := by
  constructor
  · exact one.selection.trans two.selection
  · exact one.busy.trans two.busy
  · exact one.collection.trans two.collection
  · exact one.filters.trans two.filters

theorem SameMatter.matching {one other : Screen R α} (same : one.SameMatter other) :
    one.matching = other.matching := by
  rw [Screen.matching, Screen.matching, same.collection, same.filters]

variable [Coordinate α] {σ : Type} [PreferenceStore σ]

theorem update_of_presents (screen : Screen R α) {message : Message R α}
    (presents : message.presents = true) (store : σ) :
    (screen.update message store).screen.SameMatter screen ∧
      (screen.update message store).intents = [] := by
  cases message with
  | preferenceChanged change =>
      by_cases own : screen.Owns change
      · rw [update, quiet, receiveChange_of_own own]
        exact ⟨⟨rfl, rfl, rfl, rfl⟩, rfl⟩
      · rw [update, quiet, receiveChange_of_foreign own]
        exact ⟨.refl screen, rfl⟩
  | sortBy _ | groupBy _ | selectViewMode _ | autoViewMode | selectDensity _ | autoDensity
  | setPage _ | nextPage | previousPage | setPageSize _ | scrolled _ | viewportResized _
  | itemMeasured _ _ | resetPreferences => exact ⟨⟨rfl, rfl, rfl, rfl⟩, rfl⟩
  | _ => cases presents

theorem SameMatter.withFilters {one other : Screen R α} (same : one.SameMatter other)
    (filters : Filters R) : (one.withFilters filters).SameMatter (other.withFilters filters) :=
  ⟨same.selection, same.busy, same.collection, rfl⟩

omit [Coordinate α] in
theorem SameMatter.selectWhere {one other : Screen R α} (same : one.SameMatter other)
    (test : R → Bool) : (one.selectWhere test).SameMatter (other.selectWhere test) := by
  refine ⟨?_, same.busy, same.collection, same.filters⟩
  simp only [Screen.selectWhere, same.selection, same.matching]

/-- A message that is not about how the collection is shown does not depend on it, nor on the store. -/
theorem SameMatter.update {τ : Type} [PreferenceStore τ] {one other : Screen R α}
    (same : one.SameMatter other) {message : Message R α} (plain : message.presents = false)
    (store : σ) (elsewhere : τ) :
    (one.update message store).screen.SameMatter (other.update message elsewhere).screen ∧
      (one.update message store).intents = (other.update message elsewhere).intents := by
  obtain ⟨selection, busy, collection, filters⟩ := id same
  cases message with
  | collectionUpdated records =>
      refine ⟨⟨?_, ?_, rfl, filters⟩, rfl⟩
      · simp only [Screen.update, quiet, receiveCollection, refit, selection]
      · simp only [Screen.update, quiet, receiveCollection, refit, busy]
  | busyChanged ids => exact ⟨⟨selection, rfl, collection, filters⟩, rfl⟩
  | searchChanged text =>
      simp only [Screen.update, filters]
      split
      · exact ⟨same, rfl⟩
      · exact ⟨same.withFilters _, rfl⟩
  | statusFilter _ | categoryFilter _ | secondaryFilter _ =>
      simp only [Screen.update, quiet, filters, and_true]
      exact same.withFilters _
  | resetFilters => exact ⟨same.withFilters _, rfl⟩
  | toggleSelected id selected =>
      refine ⟨⟨?_, busy, collection, filters⟩, rfl⟩
      simp only [Screen.update, quiet, selection]
  | selectAllVisible | invertVisible =>
      refine ⟨⟨?_, busy, collection, filters⟩, rfl⟩
      simp only [Screen.update, quiet, matchingIds, selection, same.matching]
  | clearSelection => exact ⟨⟨rfl, busy, collection, filters⟩, rfl⟩
  | selectByStatus _ | selectByCategory _ => exact ⟨same.selectWhere _, rfl⟩
  | ask intent => exact ⟨same, rfl⟩
  | syncSelected | deleteSelected =>
      refine ⟨same, ?_⟩
      simp only [Screen.update, selection]
  | _ => cases plain

end Screen

/-! ## Runs -/

/-- What happens to a screen, to its store and to its outbox. -/
inductive PostedEvent (R : Type) [Record R] (α σ : Type) where
  | hears (message : Message R α)
  /-- Others make something else of the store. -/
  | others (change : σ → σ)
  /-- The other side of the outbox goes. -/
  | closes

namespace PostedEvent

variable {R : Type} [Record R] {α σ : Type}

def presents : PostedEvent R α σ → Bool
  | .hears message => message.presents
  | _ => false

def isClosing : PostedEvent R α σ → Bool
  | .closes => true
  | _ => false

end PostedEvent

/-- A screen, its store, and the outbox for its intents. -/
structure Posted (R : Type) [Record R] (α σ : Type) where
  screen : Screen R α
  store : σ
  outbox : Outbox (Record.Id R)

namespace Posted

variable {R : Type} [Record R] {α σ : Type} [Coordinate α] [PreferenceStore σ]

def after (posted : Posted R α σ) : PostedEvent R α σ → Posted R α σ
  | .hears message =>
      let turn := posted.screen.update message posted.store
      ⟨turn.screen, turn.store, posted.outbox.send turn.intents⟩
  | .others change => { posted with store := change posted.store }
  | .closes => { posted with outbox := posted.outbox.close }

def run (posted : Posted R α σ) : List (PostedEvent R α σ) → Posted R α σ
  | [] => posted
  | event :: rest => (posted.after event).run rest

/-- What the screen asks for on an event, whether or not it can be sent. -/
def asked (posted : Posted R α σ) : PostedEvent R α σ → List (Intent (Record.Id R))
  | .hears message => (posted.screen.update message posted.store).intents
  | .others _ => []
  | .closes => []

/-- What the screen asks for in a run, in this order. -/
def askedIn (posted : Posted R α σ) : List (PostedEvent R α σ) → List (Intent (Record.Id R))
  | [] => []
  | event :: rest => posted.asked event ++ (posted.after event).askedIn rest

omit [Coordinate α] [PreferenceStore σ] in
/-- Two screens that are about the same, and that have sent the same. -/
structure SameMatter (one other : Posted R α σ) : Prop where
  screen : one.screen.SameMatter other.screen
  outbox : one.outbox = other.outbox

theorem sent_send {I : Type} (outbox : Outbox I) (intents : List (Intent I)) :
    (outbox.send intents).sent = outbox.sent ++ if outbox.isOpen then intents else [] := by
  cases isOpen : outbox.isOpen with
  | true => simp only [Outbox.send, isOpen, if_true]
  | false => simp [Outbox.send, isOpen]

theorem isOpen_send {I : Type} (outbox : Outbox I) (intents : List (Intent I)) :
    (outbox.send intents).isOpen = outbox.isOpen := by
  unfold Outbox.send
  split <;> rfl

theorem send_nil {I : Type} (outbox : Outbox I) : outbox.send [] = outbox := by
  unfold Outbox.send
  split
  · rw [List.append_nil]
  · rfl

theorem SameMatter.after_of_presents {one other : Posted R α σ} (same : one.SameMatter other)
    {event : PostedEvent R α σ} (presents : event.presents = true) :
    (one.after event).SameMatter other := by
  cases event with
  | hears message =>
      obtain ⟨matter, silent⟩ := Screen.update_of_presents one.screen presents one.store
      refine ⟨matter.trans same.screen, ?_⟩
      rw [after, silent, send_nil]
      exact same.outbox
  | others change => cases presents
  | closes => cases presents

theorem SameMatter.after {one other : Posted R α σ} (same : one.SameMatter other)
    {event : PostedEvent R α σ} (plain : event.presents = false) :
    (one.after event).SameMatter (other.after event) := by
  obtain ⟨screen, outbox⟩ := same
  cases event with
  | hears message =>
      obtain ⟨matter, intents⟩ := screen.update plain one.store other.store
      refine ⟨matter, ?_⟩
      rw [Posted.after, Posted.after, intents, outbox]
  | others change => exact ⟨screen, outbox⟩
  | closes =>
      refine ⟨screen, ?_⟩
      rw [Posted.after, Posted.after, outbox]

theorem SameMatter.run {one other : Posted R α σ} (same : one.SameMatter other)
    (events : List (PostedEvent R α σ)) :
    (one.run events).SameMatter (other.run (events.filter fun event => !event.presents)) := by
  induction events generalizing one other with
  | nil => exact same
  | cons event rest later =>
      cases presents : event.presents with
      | true =>
          rw [List.filter_cons_of_neg (by simp [presents])]
          exact later (same.after_of_presents presents)
      | false =>
          rw [List.filter_cons_of_pos (by simp [presents])]
          exact later (same.after presents)

theorem asked_of_presents (posted : Posted R α σ) {event : PostedEvent R α σ}
    (presents : event.presents = true) : posted.asked event = [] := by
  cases event with
  | hears message => exact (Screen.update_of_presents posted.screen presents posted.store).2
  | others change => rfl
  | closes => rfl

theorem SameMatter.asked {one other : Posted R α σ} (same : one.SameMatter other)
    {event : PostedEvent R α σ} (plain : event.presents = false) :
    one.asked event = other.asked event := by
  cases event with
  | hears message => exact (same.screen.update plain one.store other.store).2
  | others change => rfl
  | closes => rfl

theorem SameMatter.askedIn {one other : Posted R α σ} (same : one.SameMatter other)
    (events : List (PostedEvent R α σ)) :
    one.askedIn events = other.askedIn (events.filter fun event => !event.presents) := by
  induction events generalizing one other with
  | nil => rfl
  | cons event rest later =>
      cases presents : event.presents with
      | true =>
          rw [List.filter_cons_of_neg (by simp [presents]), Posted.askedIn,
            one.asked_of_presents presents, List.nil_append]
          exact later (same.after_of_presents presents)
      | false =>
          rw [List.filter_cons_of_pos (by simp [presents]), Posted.askedIn, Posted.askedIn,
            same.asked presents, later (same.after presents)]

/-! ## A closed outbox -/

omit [Coordinate α] [PreferenceStore σ] in
/-- The same screen on the same store, whatever has been sent. -/
structure SameScreen (one other : Posted R α σ) : Prop where
  screen : one.screen = other.screen
  store : one.store = other.store

theorem SameScreen.after {one other : Posted R α σ} (same : one.SameScreen other)
    (event : PostedEvent R α σ) : (one.after event).SameScreen (other.after event) := by
  obtain ⟨screen, store⟩ := same
  cases event with
  | hears message =>
      constructor
      · simp only [Posted.after, screen, store]
      · simp only [Posted.after, screen, store]
  | others change => exact ⟨screen, congrArg change store⟩
  | closes => exact ⟨screen, store⟩

theorem SameScreen.asked {one other : Posted R α σ} (same : one.SameScreen other)
    (event : PostedEvent R α σ) : one.asked event = other.asked event := by
  cases event with
  | hears message => rw [Posted.asked, Posted.asked, same.screen, same.store]
  | others change => rfl
  | closes => rfl

/-- The closing of an outbox leaves the screen and its store alone, and what is asked for. -/
theorem SameScreen.run {one other : Posted R α σ} (same : one.SameScreen other)
    (events : List (PostedEvent R α σ)) :
    (one.run events).SameScreen (other.run (events.filter fun event => !event.isClosing)) ∧
      one.askedIn events = other.askedIn (events.filter fun event => !event.isClosing) := by
  induction events generalizing one other with
  | nil => exact ⟨same, rfl⟩
  | cons event rest later =>
      cases closing : event.isClosing with
      | true =>
          obtain ⟨passed, silent⟩ : (one.after event).SameScreen other ∧
              one.asked event = [] := by
            cases event with
            | closes => exact ⟨⟨same.screen, same.store⟩, rfl⟩
            | hears message => cases closing
            | others change => cases closing
          rw [List.filter_cons_of_neg (by simp [closing]), Posted.askedIn, silent,
            List.nil_append]
          exact later passed
      | false =>
          obtain ⟨screen, asked⟩ := later (same.after event)
          rw [List.filter_cons_of_pos (by simp [closing]), Posted.askedIn, Posted.askedIn,
            same.asked event, asked]
          exact ⟨screen, rfl⟩

theorem outbox_run_of_closed (posted : Posted R α σ) (closed : posted.outbox.isOpen = false)
    (events : List (PostedEvent R α σ)) : (posted.run events).outbox = posted.outbox := by
  induction events generalizing posted with
  | nil => rfl
  | cons event rest later =>
      have still : (posted.after event).outbox = posted.outbox := by
        cases event with
        | hears message => simp [after, Outbox.send, closed]
        | others change => rfl
        | closes =>
            rw [after, Outbox.close, ← closed]
      rw [run, later _ (still ▸ closed), still]

/-- All that is asked for is sent, each thing once and in its order, until the outbox is closed. -/
theorem sent_run (posted : Posted R α σ) (events : List (PostedEvent R α σ)) :
    (posted.run events).outbox.sent = posted.outbox.sent ++
      if posted.outbox.isOpen then
        posted.askedIn (events.takeWhile fun event => !event.isClosing)
      else [] := by
  cases isOpen : posted.outbox.isOpen with
  | false => rw [posted.outbox_run_of_closed isOpen, if_neg Bool.false_ne_true, List.append_nil]
  | true =>
      rw [if_pos rfl]
      induction events generalizing posted with
      | nil => exact (List.append_nil _).symm
      | cons event rest later =>
          cases event with
          | closes =>
              rw [run, outbox_run_of_closed _ rfl]
              exact (List.append_nil _).symm
          | others change => exact later (posted.after (.others change)) isOpen
          | hears message =>
              let next := posted.after (.hears message)
              have still : next.outbox.isOpen = true :=
                (isOpen_send posted.outbox _).trans isOpen
              have gained : next.outbox.sent =
                  posted.outbox.sent ++ posted.asked (.hears message) := by
                simp only [next, after, sent_send, isOpen, if_true, asked]
              calc
                (next.run rest).outbox.sent
                _ = next.outbox.sent ++ next.askedIn (rest.takeWhile fun event => !event.isClosing) :=
                    later next still
                _ = posted.outbox.sent ++ (posted.asked (.hears message) ++
                      next.askedIn (rest.takeWhile fun event => !event.isClosing)) := by
                    rw [gained, List.append_assoc]

/-- Deleting from a run all that is about how the collection is shown changes neither what the screen
is about nor what it asks for and has sent, whatever its store is.  An open outbox gains exactly what
the screen asks for, in its order; a closed one changes nothing but that nothing more is sent.  And to
ask for something changes neither the screen nor its store; what is selected is asked for in its order,
each record once. -/
theorem matter_is_apart_from_presentation (posted : Posted R α σ) (other : σ)
    (events : List (PostedEvent R α σ)) :
    let elsewhere : Posted R α σ := { posted with store := other }
    let plainly := events.filter fun event => !event.presents
    let unclosing := events.filter fun event => !event.isClosing
    let opening := events.takeWhile fun event => !event.isClosing
    let full := posted.run events
    let plain := elsewhere.run plainly
    let unclosed := posted.run unclosing
    let opened := posted.run opening
    (full.screen.SameMatter plain.screen ∧ full.outbox = plain.outbox ∧
        posted.askedIn events = elsewhere.askedIn plainly) ∧
      (full.screen = unclosed.screen ∧ full.store = unclosed.store ∧
        posted.askedIn events = posted.askedIn unclosing ∧
        full.outbox.sent = opened.outbox.sent) ∧
      full.outbox.sent =
        posted.outbox.sent ++ (if posted.outbox.isOpen then posted.askedIn opening else []) ∧
      (∀ message, (full.after (.hears message)).outbox.sent = full.outbox.sent ++
        if full.outbox.isOpen then (full.screen.update message full.store).intents else []) ∧
      (∀ intent, full.screen.update (.ask intent) full.store =
        ⟨full.screen, full.store, [intent]⟩) ∧
      full.screen.update .syncSelected full.store =
        ⟨full.screen, full.store, full.screen.selection.ids.map (Intent.mk .sync)⟩ ∧
      full.screen.update .deleteSelected full.store =
        ⟨full.screen, full.store, full.screen.selection.ids.map (Intent.mk .delete)⟩ ∧
      full.screen.selection.ids.Nodup := by
  intro elsewhere plainly unclosing opening full plain unclosed opened
  have start : posted.SameMatter elsewhere := ⟨.refl posted.screen, rfl⟩
  have matter : full.SameMatter plain := start.run events
  obtain ⟨same, asked⟩ : full.SameScreen unclosed ∧
      posted.askedIn events = posted.askedIn unclosing := SameScreen.run ⟨rfl, rfl⟩ events
  have sent := sent_run posted events
  have still : opening.takeWhile (fun event => !event.isClosing) = opening := by
    exact List.takeWhile_idem
  have sentToo : full.outbox.sent = opened.outbox.sent := by
    rw [sent, sent_run posted opening, still]
  refine ⟨⟨matter.screen, matter.outbox, start.askedIn events⟩,
    ⟨same.screen, same.store, asked, sentToo⟩, sent, ?_, ?_, rfl, rfl, ?_⟩
  · intro message
    exact sent_send full.outbox _
  · intro intent
    rfl
  · exact full.screen.selection.nodup

/-- Two of three accounts are picked, synced and deleted while others change the order, the page and the
store; the outbox is closed before a third request. -/
def pickedAccounts : List (PostedEvent Account Rat MemoryStore) :=
  [.hears (.collectionUpdated
      [Screen.accountWith "a" .active, Screen.accountWith "b" .error,
        Screen.accountWith "c" .active]),
    .hears (.toggleSelected "b" true), .hears (.sortBy .status), .hears (.toggleSelected "a" true),
    .others fun store => (PreferenceStore.write store "accounts.view_mode" "grouped").2,
    .hears .syncSelected, .hears (.setPage 2), .hears .deleteSelected,
    .hears (.ask ⟨.toggleStatus, "c"⟩), .closes, .hears (.selectDensity .minimal),
    .hears .syncSelected]

theorem pickedAccounts_are_asked_for :
    let posted : Posted Account Rat MemoryStore :=
      ⟨(Screen.ofListing Account .standard MemoryStore.new).1, .new, .new⟩
    let full := posted.run pickedAccounts
    let plain := posted.run (pickedAccounts.filter fun event => !event.presents)
    full.outbox.sent = [⟨.sync, "b"⟩, ⟨.sync, "a"⟩, ⟨.delete, "b"⟩, ⟨.delete, "a"⟩,
        ⟨.toggleStatus, "c"⟩] ∧
      full.screen.selection.ids = ["b", "a"] ∧ full.screen.SameMatter plain.screen ∧
      full.outbox = plain.outbox := by
  intro posted full plain
  obtain ⟨⟨matter, outbox, -⟩, -, sent, -⟩ :=
    matter_is_apart_from_presentation posted MemoryStore.new pickedAccounts
  have asked : posted.askedIn (pickedAccounts.takeWhile fun event => !event.isClosing) =
      [⟨.sync, "b"⟩, ⟨.sync, "a"⟩, ⟨.delete, "b"⟩, ⟨.delete, "a"⟩, ⟨.toggleStatus, "c"⟩] := by
    decide +kernel
  refine ⟨?_, by decide +kernel, matter, outbox⟩
  rw [sent, asked]
  rfl

end Posted

end AdaptiveView

import AdaptiveView.Proofs.Filter.Search
import AdaptiveView.Proofs.Screen.Measured

/-!
# Why a plan is empty

A plan without rows says why: no collection has arrived yet, the collection is empty, or the filters leave
nothing of it.  The screen keeps a flag for the first, and nothing else tells an empty collection from one
that has not arrived; the flag is set exactly if one has.

The filters are only blamed if some are counted as active.  The count looks at the search text as it was
typed, while what is looked for is the text without blanks around it and in lower case; both are empty for
the same texts.
-/

set_option autoImplicit false

namespace AdaptiveView

open AdaptiveView.Calendar AdaptiveView.Text

/-! ## Filters that are not active -/

theorem Text.dropBlanks_eq_nil_iff {cs : List Char} :
    dropBlanks cs = [] ↔ ∀ c ∈ cs, isBlank c = true :=
  List.dropWhile_eq_nil_iff

theorem Text.trimChars_eq_nil_iff {cs : List Char} :
    trimChars cs = [] ↔ ∀ c ∈ cs, isBlank c = true := by
  rw [trimChars, List.reverse_eq_nil_iff, dropBlanks_eq_nil_iff]
  simp only [List.mem_reverse]
  constructor
  · intro rest c among
    rw [← List.takeWhile_append_dropWhile (p := isBlank) (l := cs), List.mem_append] at among
    rcases among with leading | kept
    · exact List.all_eq_true.mp List.all_takeWhile c leading
    · exact rest c kept
  · intro blank c kept
    exact blank c ((List.dropWhile_suffix isBlank).mem kept)

theorem Text.lowercase_trim_eq_empty_iff {s : String} :
    (lowercase (trim s)).isEmpty = true ↔ isBlankText s = true := by
  rw [String.isEmpty_iff, ← String.toList_eq_nil_iff, toList_lowercase, lowerAfter_eq_nil_iff, trim,
    String.toList_ofList, trimChars_eq_nil_iff, isBlankText, List.all_eq_true]

theorem FieldFilter.accepts_of_inactive {T : Type} [DecidableEq T] {filter : FieldFilter T}
    (inactive : filter.isActive = false) (value : T) : filter.accepts value = true := by
  cases filter with
  | all => rfl
  | only wanted => cases inactive

namespace Filters

variable {R : Type} [Record R] {filters : Filters R}

theorem activeCount_eq_zero_iff :
    filters.activeCount = 0 ↔
      isBlankText filters.searchText = true ∧ filters.status.isActive = false ∧
        filters.category.isActive = false ∧ filters.secondary.isActive = false := by
  simp [activeCount, List.countP_eq_zero]

/-- Filters of which none is counted leave every record. -/
theorem accepts_of_activeCount_eq_zero (none : filters.activeCount = 0) (record : R) :
    filters.accepts record = true := by
  obtain ⟨blank, status, category, secondary⟩ := activeCount_eq_zero_iff.mp none
  have query : filters.query.isEmpty = true := lowercase_trim_eq_empty_iff.mpr blank
  simp only [accepts, finds, query, FieldFilter.accepts_of_inactive status,
    FieldFilter.accepts_of_inactive category, FieldFilter.accepts_of_inactive secondary,
    Bool.true_or, Bool.and_self]

end Filters

/-! ## What has arrived -/

/-- The message brings a collection. -/
def Message.isCollection {R : Type} [Record R] {α : Type} : Message R α → Bool
  | .collectionUpdated _ => true
  | _ => false

namespace Screen

variable {R : Type} [Record R] {α : Type} [Coordinate α]

section
variable {σ : Type} [PreferenceStore σ]

theorem loaded_update (screen : Screen R α) (message : Message R α) (store : σ) :
    (screen.update message store).screen.loaded = (screen.loaded || message.isCollection) := by
  cases message with
  | collectionUpdated records => exact (Bool.or_true _).symm
  | searchChanged text =>
      simp only [update]
      split <;> exact (Bool.or_false _).symm
  | preferenceChanged change =>
      by_cases own : screen.Owns change
      · rw [update, quiet, receiveChange_of_own own]
        exact (Bool.or_false _).symm
      · rw [update, quiet, receiveChange_of_foreign own]
        exact (Bool.or_false _).symm
  | _ => exact (Bool.or_false _).symm

theorem loaded_through (screen : Screen R α) (run : List (Message R α × σ)) :
    (screen.through run).loaded = (screen.loaded || run.any fun entry => entry.1.isCollection) := by
  induction run generalizing screen with
  | nil => exact (Bool.or_false _).symm
  | cons entry rest later =>
      rw [through, later, loaded_update, List.any_cons, Bool.or_assoc]

/-- What has not arrived is not there. -/
def HoldsArrived (screen : Screen R α) : Prop :=
  screen.loaded = false → screen.collection = []

theorem HoldsArrived.update {screen : Screen R α} (holds : screen.HoldsArrived)
    (message : Message R α) (store : σ) : (screen.update message store).screen.HoldsArrived := by
  unfold HoldsArrived at *
  rw [loaded_update, collection_update, Bool.or_eq_false_iff]
  rintro ⟨unloaded, other⟩
  cases message with
  | collectionUpdated records => cases other
  | _ => exact holds unloaded

theorem HoldsArrived.through {screen : Screen R α} (holds : screen.HoldsArrived)
    (run : List (Message R α × σ)) : (screen.through run).HoldsArrived :=
  through_keeps HoldsArrived.update holds run

end

/-! ## Reasons -/

theorem body_eq_empty_iff {screen : Screen R α} {now : Instant} {reason : EmptyReason} :
    (screen.plan now).body = .empty reason ↔
      screen.matching = [] ∧ screen.emptyReason = reason := by
  by_cases empty : screen.matching = []
  · rw [body_of_empty empty, PlanBody.empty.injEq, and_iff_right empty]
  · have filled := isEmpty_ordered empty
    simp only [plan, planBody, filled, Bool.false_eq_true, if_false, empty, false_and, iff_false]
    split <;> simp only [reduceCtorEq, not_false_eq_true]

theorem exists_empty_iff {screen : Screen R α} {now : Instant} :
    (∃ reason, (screen.plan now).body = .empty reason) ↔ (screen.plan now).filteredCount = 0 := by
  have counted : (screen.plan now).filteredCount = screen.matching.length := screen.length_ordered
  rw [counted, List.length_eq_zero_iff]
  constructor
  · rintro ⟨reason, body⟩
    exact (body_eq_empty_iff.mp body).1
  · intro empty
    exact ⟨screen.emptyReason, body_of_empty empty now⟩

omit [Coordinate α] in
theorem matching_of_activeCount_eq_zero {screen : Screen R α}
    (none : screen.filters.activeCount = 0) : screen.matching = screen.collection := by
  apply List.filter_eq_self.mpr
  intro record _
  exact Filters.accepts_of_activeCount_eq_zero none record

omit [Coordinate α] in
/-- A screen that holds what has arrived gives the reason that applies. -/
theorem HoldsArrived.reason_iff {screen : Screen R α} (holds : screen.HoldsArrived) :
    (screen.emptyReason = .loading ↔ screen.loaded = false) ∧
      (screen.emptyReason = .noRecords ↔ screen.loaded = true ∧ screen.collection = []) ∧
      (screen.emptyReason = .noMatches ↔ screen.collection ≠ []) := by
  unfold HoldsArrived at holds
  unfold emptyReason
  cases loaded : screen.loaded with
  | false => simp [holds loaded]
  | true => cases screen.collection <;> simp

section
variable {σ : Type} [PreferenceStore σ]

theorem loaded_opened_iff (name : String) (sort : SortState (Record.SortField R))
    (config : Settings α) (store : σ) (run : List (Message R α × σ)) :
    ((new name sort config store).1.through run).loaded = true ↔
      ∃ records stored, (.collectionUpdated records, stored) ∈ run := by
  have unloaded : (new name sort config store : Screen R α × σ).1.loaded = false := rfl
  rw [loaded_through, unloaded, Bool.false_or, List.any_eq_true]
  constructor
  · rintro ⟨⟨message, stored⟩, among, collection⟩
    cases message with
    | collectionUpdated records => exact ⟨records, stored, among⟩
    | _ => cases collection
  · rintro ⟨records, stored, among⟩
    exact ⟨_, among, rfl⟩

/-- A plan is empty exactly if no record passes the filters, and says why: no collection has arrived, or one
has and the collection is empty, or it is not empty.  Then some filter is active, since filters of which
none is counted leave every record. -/
theorem empty_plans_tell_why (name : String) (sort : SortState (Record.SortField R))
    (config : Settings α) (store : σ) (run : List (Message R α × σ)) :
    let screen : Screen R α := (new name sort config store).1.through run
    let arrived := ∃ records stored, (.collectionUpdated records, stored) ∈ run
    (∀ now,
      let plan := screen.plan now
      ((∃ reason, plan.body = .empty reason) ↔ plan.filteredCount = 0) ∧
        ∀ reason, plan.body = .empty reason →
          (reason = .loading ↔ ¬ arrived) ∧
            (reason = .noRecords ↔ arrived ∧ plan.totalCount = 0) ∧
            (reason = .noMatches ↔ 0 < plan.totalCount) ∧
            (reason = .noMatches → 1 ≤ plan.activeFilters)) ∧
      ∀ filters : Filters R, filters.activeCount = 0 → ∀ record, filters.accepts record = true := by
  intro screen arrived
  refine ⟨?_, fun filters => Filters.accepts_of_activeCount_eq_zero⟩
  have loaded : screen.loaded = true ↔ arrived := loaded_opened_iff name sort config store run
  have opened : (new name sort config store : Screen R α × σ).1.HoldsArrived := fun _ => rfl
  obtain ⟨loading, noRecords, noMatches⟩ := (opened.through run).reason_iff
  intro now plan
  refine ⟨exists_empty_iff, ?_⟩
  intro reason body
  obtain ⟨empty, rfl⟩ := body_eq_empty_iff.mp body
  have total : plan.totalCount = screen.collection.length := rfl
  have active : plan.activeFilters = screen.filters.activeCount := rfl
  rw [total, active, List.length_eq_zero_iff, List.length_pos_iff, loading, noRecords, noMatches,
    ← loaded, Bool.not_eq_true]
  refine ⟨Iff.rfl, Iff.rfl, Iff.rfl, ?_⟩
  intro filled
  rw [Nat.one_le_iff_ne_zero]
  intro none
  exact filled ((matching_of_activeCount_eq_zero none).symm.trans empty)

/-- An account arrives and a search for something else hides it. -/
def hiddenAccount : List (Message Account Rat × MemoryStore) :=
  [.collectionUpdated [accountWith "a" .active], .searchChanged " Nobody "].map
    fun message => (message, MemoryStore.new)

theorem empty_plans_tell_why_in_hiddenAccount :
    let opened : Screen Account Rat :=
      (new "accounts" (.ascending AccountSortField.email) .standard MemoryStore.new).1
    let plan := (opened.through hiddenAccount).plan .earliest
    plan.filteredCount = 0 ∧ plan.body = .empty .noMatches ∧ 1 ≤ plan.activeFilters ∧
      (opened.plan .earliest).body = .empty .loading := by
  intro opened plan
  have explained := empty_plans_tell_why (R := Account) (α := Rat) "accounts"
    (.ascending AccountSortField.email) .standard MemoryStore.new
  obtain ⟨isEmpty, why⟩ := (explained hiddenAccount).1 .earliest
  obtain ⟨isEmptyAtFirst, whyAtFirst⟩ := (explained []).1 .earliest
  have none : plan.filteredCount = 0 := by decide +kernel
  obtain ⟨reason, body⟩ := isEmpty.mpr none
  obtain ⟨-, -, noMatches, active⟩ := why reason body
  have hidden : reason = .noMatches := noMatches.mpr (by decide +kernel)
  obtain ⟨reasonAtFirst, bodyAtFirst⟩ := isEmptyAtFirst.mpr (by decide +kernel)
  have loading : reasonAtFirst = .loading := (whyAtFirst reasonAtFirst bodyAtFirst).1.mpr (by simp)
  subst hidden loading
  exact ⟨none, body, active rfl, bodyAtFirst⟩

end

end Screen

end AdaptiveView

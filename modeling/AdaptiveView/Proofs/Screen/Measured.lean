import AdaptiveView.Proofs.Screen.Layouts

/-!
# What a measured height describes

Measured heights belong to positions, and outlive the message that recorded them.  They describe the
rows they were measured on only because every message that may put another record at a position, or
show its record in another density, forgets all of them.

The main statement is about whole runs of a screen, over whatever the store holds before each
message: a height that is in use was given by the last measurement accepted for its position, and since
then neither the order of the records nor the density has ever been another.
-/

set_option autoImplicit false

namespace AdaptiveView

open Coordinate

namespace Screen

variable {R : Type} [Record R] {α : Type}

/-- Neither the order of the records nor the density is another one. -/
structure SameRows (screen other : Screen R α) : Prop where
  order : other.sorted = screen.sorted
  density : other.density.value = screen.density.value

theorem SameRows.refl (screen : Screen R α) : screen.SameRows screen :=
  ⟨rfl, rfl⟩

theorem SameRows.trans {screen middle other : Screen R α} (first : screen.SameRows middle)
    (second : middle.SameRows other) : screen.SameRows other :=
  ⟨second.order.trans first.order, second.density.trans first.density⟩

variable [Coordinate α]

/-! ## One message -/

/-- The measured heights after a message that forgets none. -/
def heightsAfter (screen : Screen R α) : Message R α → List (Option α)
  | .itemMeasured index height => (screen.viewport.recordHeight index height).1.measured
  | _ => screen.viewport.measured

/-- The message brings a height for this item that is recorded. -/
def Measures (screen : Screen R α) (index : Nat) (message : Message R α) : Prop :=
  ∃ height, message = .itemMeasured index height ∧ screen.viewport.Accepts index height

theorem unmeasured_refit {screen : Screen R α} (unmeasured : screen.viewport.Unmeasured) :
    screen.refit.viewport.Unmeasured :=
  unmeasured.withCount _

theorem Fitted.measured_refit {screen : Screen R α} (fitted : screen.Fitted) :
    screen.refit.viewport.measured = screen.viewport.measured := by
  have same : screen.matching.length = screen.viewport.count := fitted.scrolled.symm
  simp only [refit, same]
  exact Viewport.measured_withCount_count screen.viewport

/-- The estimate is left alone only where the density is. -/
theorem unmeasured_or_sameRows_of_estimate {screen other : Screen R α} {stays : Prop}
    [Decidable stays] {estimate : α} (order : other.sorted = screen.sorted)
    (density : stays → other.density.value = screen.density.value)
    (viewport : other.viewport =
      if stays then screen.viewport else screen.viewport.withEstimate estimate) :
    other.viewport.Unmeasured ∨
      screen.SameRows other ∧ other.viewport.measured = screen.viewport.measured := by
  by_cases same : stays
  · rw [if_pos same] at viewport
    exact .inr ⟨⟨order, density same⟩, congrArg Viewport.measured viewport⟩
  · rw [if_neg same] at viewport
    rw [viewport]
    exact .inl (Viewport.unmeasured_withEstimate _ _)

section
variable {σ : Type} [PreferenceStore σ]

theorem unmeasured_or_sameRows_of_own {screen : Screen R α} {change : Change}
    (own : screen.Owns change) (store : σ) :
    (screen.receiveChange change store).1.viewport.Unmeasured ∨
      screen.SameRows (screen.receiveChange change store).1 ∧
        (screen.receiveChange change store).1.viewport.measured = screen.viewport.measured := by
  rw [receiveChange_of_own own]
  refine unmeasured_or_sameRows_of_estimate rfl ?_ rfl
  intro same
  exact congrArg Selector.value (if_pos same)

/-- Every message either forgets all measured heights or leaves the rows alone. -/
theorem Fitted.unmeasured_or_sameRows {screen : Screen R α} (fitted : screen.Fitted)
    (message : Message R α) (store : σ) :
    (screen.update message store).screen.viewport.Unmeasured ∨
      screen.SameRows (screen.update message store).screen ∧
        (screen.update message store).screen.viewport.measured =
          screen.heightsAfter message := by
  cases message with
  | collectionUpdated records =>
      exact .inl (unmeasured_refit (Viewport.unmeasured_forgetMeasured _))
  | preferenceChanged change =>
      by_cases own : screen.Owns change
      · exact unmeasured_or_sameRows_of_own own store
      · simp only [Screen.update, quiet, receiveChange_of_foreign own]
        exact .inr ⟨.refl screen, rfl⟩
  | searchChanged text =>
      simp only [Screen.update]
      split
      · exact .inr ⟨.refl screen, rfl⟩
      · exact .inl (unmeasured_refit (Viewport.unmeasured_forgetMeasured screen.viewport))
  | statusFilter filter =>
      exact .inl (unmeasured_refit (Viewport.unmeasured_forgetMeasured screen.viewport))
  | categoryFilter filter =>
      exact .inl (unmeasured_refit (Viewport.unmeasured_forgetMeasured screen.viewport))
  | secondaryFilter filter =>
      exact .inl (unmeasured_refit (Viewport.unmeasured_forgetMeasured screen.viewport))
  | resetFilters =>
      exact .inl (unmeasured_refit (Viewport.unmeasured_forgetMeasured screen.viewport))
  | sortBy field => exact .inl (Viewport.unmeasured_forgetMeasured screen.viewport)
  | selectDensity density => exact unmeasured_or_sameRows_of_estimate rfl Eq.symm rfl
  | autoDensity => exact unmeasured_or_sameRows_of_estimate rfl Eq.symm rfl
  | setPageSize pageSize =>
      refine .inr ⟨⟨rfl, rfl⟩, ?_⟩
      exact fitted.measured_refit
  | resetPreferences =>
      exact .inl (unmeasured_refit (Viewport.unmeasured_withEstimate screen.viewport _))
  | _ => exact .inr ⟨⟨rfl, rfl⟩, rfl⟩

end

/-- A height that is there afterwards was there before, or has just been measured. -/
theorem measured_of_heightsAfter {screen : Screen R α} {message : Message R α} {index : Nat}
    {height : α} (there : (screen.heightsAfter message)[index]? = some (some height)) :
    (¬ screen.Measures index message ∧
        screen.viewport.measured[index]? = some (some height)) ∨
      ∃ given, message = .itemMeasured index given ∧ screen.viewport.Accepts index given ∧
        height = atLeastZero given := by
  cases message with
  | itemMeasured position given =>
      by_cases accepts : screen.viewport.Accepts position given
      · rw [heightsAfter, Viewport.measured_recordHeight_of_accepts accepts] at there
        by_cases here : position = index
        · subst here
          have present : position < screen.viewport.measured.length := accepts.1
          rw [List.getElem?_set_self present] at there
          cases there
          exact .inr ⟨given, rfl, accepts, rfl⟩
        · rw [List.getElem?_set_ne here] at there
          refine .inl ⟨?_, there⟩
          rintro ⟨other, same, -⟩
          cases same
          exact here rfl
      · rw [heightsAfter, Viewport.recordHeight_of_not_accepts accepts] at there
        refine .inl ⟨?_, there⟩
        rintro ⟨other, same, accepted⟩
        cases same
        exact accepts accepted
  | _ =>
      refine .inl ⟨?_, there⟩
      rintro ⟨other, same, -⟩
      cases same

/-! ## Whole runs -/

section
variable {σ : Type} [PreferenceStore σ]

/-- A screen after messages, each with what the store holds by then. -/
def through (screen : Screen R α) : List (Message R α × σ) → Screen R α
  | [] => screen
  | (message, store) :: rest => (screen.update message store).screen.through rest

theorem through_append (screen : Screen R α) (first second : List (Message R α × σ)) :
    screen.through (first ++ second) = (screen.through first).through second := by
  induction first generalizing screen with
  | nil => rfl
  | cons entry rest later => exact later _

/-- What every message keeps is kept by a run. -/
theorem through_keeps {Holds : Screen R α → Prop}
    (keeps : ∀ {screen : Screen R α}, Holds screen → ∀ (message : Message R α) (store : σ),
      Holds (screen.update message store).screen)
    {screen : Screen R α} (holds : Holds screen) (run : List (Message R α × σ)) :
    Holds (screen.through run) := by
  induction run generalizing screen with
  | nil => exact holds
  | cons entry rest later => exact later (keeps holds entry.1 entry.2)

theorem Fitted.through {screen : Screen R α} (fitted : screen.Fitted)
    (run : List (Message R α × σ)) : (screen.through run).Fitted :=
  through_keeps Fitted.update fitted run

/-- All along a run the rows stay the same, and no height is recorded for this item. -/
def Undisturbed (screen : Screen R α) (index : Nat) : List (Message R α × σ) → Prop
  | [] => True
  | (message, store) :: rest =>
      let next := (screen.update message store).screen
      ¬ screen.Measures index message ∧ screen.SameRows next ∧ next.Undisturbed index rest

theorem Undisturbed.sameRows {screen : Screen R α} {index : Nat} {run : List (Message R α × σ)}
    (undisturbed : screen.Undisturbed index run) {passed : List (Message R α × σ)}
    (within : passed <+: run) : screen.SameRows (screen.through passed) := by
  induction run generalizing screen passed with
  | nil =>
      rw [List.prefix_nil] at within
      subst within
      exact .refl screen
  | cons entry rest later =>
      obtain ⟨-, same, undisturbed⟩ := undisturbed
      rcases List.prefix_cons_iff.mp within with rfl | ⟨passed, rfl, further⟩
      · exact .refl screen
      · exact same.trans (later undisturbed further)

theorem Undisturbed.not_measures {screen : Screen R α} {index : Nat}
    {run early late : List (Message R α × σ)} {message : Message R α} {store : σ}
    (undisturbed : screen.Undisturbed index run)
    (split : run = early ++ (message, store) :: late) :
    ¬ (screen.through early).Measures index message := by
  subst split
  induction early generalizing screen with
  | nil => exact undisturbed.1
  | cons entry rest later => exact later undisturbed.2.2

/-- A height that is in use after a run was in use before it, or has been measured on the way, and the
rest of the run left it to its row. -/
theorem Fitted.held_or_measured {screen : Screen R α} (fitted : screen.Fitted)
    {run : List (Message R α × σ)} {index : Nat} {height : α}
    (inUse : (screen.through run).viewport.measured[index]? = some (some height)) :
    (screen.viewport.measured[index]? = some (some height) ∧ screen.Undisturbed index run) ∨
      ∃ before given store after,
        run = before ++ (.itemMeasured index given, store) :: after ∧
          (screen.through before).viewport.Accepts index given ∧ height = atLeastZero given ∧
          ((screen.through before).update (.itemMeasured index given) store).screen.Undisturbed
            index after := by
  induction run generalizing screen with
  | nil => exact .inl ⟨inUse, trivial⟩
  | cons entry rest later =>
      obtain ⟨message, store⟩ := entry
      rcases later (fitted.update message store) inUse with
        ⟨held, undisturbed⟩ | ⟨before, given, seen, after, rfl, accepts, same, undisturbed⟩
      · rcases fitted.unmeasured_or_sameRows message store with unmeasured | ⟨rows, heights⟩
        · cases unmeasured _ (List.mem_of_getElem? held)
        · rw [heights] at held
          rcases measured_of_heightsAfter held with
            ⟨unmeasured, held⟩ | ⟨given, rfl, accepts, same⟩
          · exact .inl ⟨held, unmeasured, rows, undisturbed⟩
          · exact .inr ⟨[], given, store, rest, rfl, accepts, same, undisturbed⟩
      · exact .inr ⟨(message, store) :: before, given, seen, after, rfl, accepts, same,
          undisturbed⟩

/-- A measured height in use was given by the last measurement accepted for its item.  There was such
an item then, and from then on the records have stood in the same order and the density has been the
same, in every state on the way. -/
theorem measured_heights_stay_with_rows (name : String) (sort : SortState (Record.SortField R))
    (config : Settings α) (store : σ) (run : List (Message R α × σ)) (index : Nat) (height : α)
    (inUse : ((new name sort config store).1.through run).viewport.measured[index]? =
      some (some height)) :
    let opened : Screen R α := (new name sort config store).1
    ∃ before given seen after,
      run = before ++ (.itemMeasured index given, seen) :: after ∧
        let measured := opened.through before
        measured.viewport.Accepts index given ∧ height = atLeastZero given ∧
          index < measured.sorted.length ∧
          ∀ passed, passed <+: after →
            let later := opened.through (before ++ (.itemMeasured index given, seen) :: passed)
            measured.SameRows later ∧
              ∀ message stored rest, after = passed ++ (message, stored) :: rest →
                ¬ later.Measures index message := by
  intro opened
  have fitted : opened.Fitted := fitted_new name sort config store
  rcases fitted.held_or_measured inUse with ⟨held, -⟩ |
    ⟨before, given, seen, after, split, accepts, same, undisturbed⟩
  · have none : opened.viewport.measured = [] := rfl
    rw [none] at held
    cases held
  · refine ⟨before, given, seen, after, split, accepts, same, ?_, ?_⟩
    · rw [(opened.through before).sorted_perm.length_eq, ← (fitted.through before).scrolled]
      exact accepts.1
    · intro passed within
      rw [through_append]
      have atOnce : (opened.through before).SameRows
          ((opened.through before).update (.itemMeasured index given) seen).screen := ⟨rfl, rfl⟩
      refine ⟨atOnce.trans (undisturbed.sameRows within), ?_⟩
      intro message stored rest further
      exact undisturbed.not_measures further

/-- One item is measured, the order is turned and the other item is measured twice, before messages
that leave the rows alone. -/
def turnedList : List (Message Account Rat × MemoryStore) :=
  [.collectionUpdated [accountWith "a" .active, accountWith "b" .error], .itemMeasured 1 120,
    .sortBy AccountSortField.email, .itemMeasured 0 240, .itemMeasured 0 250, .setPageSize 1,
    .selectDensity .detailed].map fun message => (message, MemoryStore.new)

theorem measured_heights_stay_in_turnedList :
    let opened : Screen Account Rat :=
      (new "accounts" (.ascending AccountSortField.email) .standard MemoryStore.new).1
    (opened.through turnedList).viewport.measured = [some 250, none] ∧
      ∃ before given seen after,
        turnedList = before ++ (.itemMeasured 0 given, seen) :: after ∧
          250 = atLeastZero given ∧
          (opened.through before).SameRows (opened.through turnedList) := by
  intro opened
  have heights : (opened.through turnedList).viewport.measured = [some 250, none] := by
    decide +kernel
  have inUse : (opened.through turnedList).viewport.measured[0]? = some (some 250) := by
    rw [heights]
    rfl
  obtain ⟨before, given, seen, after, split, -, same, -, undisturbed⟩ :=
    measured_heights_stay_with_rows (R := Account) "accounts"
      (.ascending AccountSortField.email) .standard MemoryStore.new turnedList 0 250 inUse
  refine ⟨heights, before, given, seen, after, split, same, ?_⟩
  have whole := (undisturbed after (List.prefix_refl after)).1
  rw [← split] at whole
  exact whole

end

end Screen

end AdaptiveView

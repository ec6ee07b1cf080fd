import AdaptiveView.Proofs.Selection.Members

/-!
# Selections and their history

A selection is what has been done to it.  Inside one step identifiers come and go one at a time, so a
run passes through more selections than it has steps.  The members stand in the order in which each of
them last became one in the course of all these: whoever goes and comes back is last again, and whoever
is added once more stays.

What is selected is asked for in this order.
-/

set_option autoImplicit false

namespace AdaptiveView

/-- What is done to a selection at once. -/
inductive SelectionStep (R : Type) [Record R] where
  | set (id : Record.Id R) (selected : Bool)
  | insertAll (ids : List (Record.Id R))
  | invert (ids : List (Record.Id R))
  | clear
  | addWhere (candidates : List R) (test : R → Bool)
  | keepOnly (present : List (Record.Id R))

namespace Selection

/-! ## The order of joining -/

section Joining
variable {I : Type}

/-- The identifier was no member at this moment and has been one at every later moment. -/
def JoinedAt (moments : List (Selection I)) (id : I) (time : Nat) : Prop :=
  ∃ before outside after, moments = before ++ outside :: after ∧ before.length = time ∧
    id ∉ outside.ids ∧ ∀ later ∈ after, id ∈ later.ids

/-- The members stand in the order in which each of them last became one. -/
def InJoiningOrder (past : List (Selection I)) (selection : Selection I) : Prop :=
  ∃ joined : I → Nat,
    (∀ id ∈ selection.ids, JoinedAt (past ++ [selection]) id (joined id)) ∧
      selection.ids.Pairwise fun one other => joined one < joined other

theorem JoinedAt.append {moments : List (Selection I)} {id : I} {time : Nat}
    (joined : JoinedAt moments id time) {next : Selection I} (inside : id ∈ next.ids) :
    JoinedAt (moments ++ [next]) id time := by
  obtain ⟨before, outside, after, rfl, length, missing, since⟩ := joined
  refine ⟨before, outside, after ++ [next], by simp, length, missing, ?_⟩
  intro later among
  rcases List.mem_append.mp among with earlier | last
  · exact since later earlier
  · rw [List.mem_singleton.mp last]
    exact inside

theorem JoinedAt.lt_length {past : List (Selection I)} {selection : Selection I} {id : I}
    {time : Nat} (joined : JoinedAt (past ++ [selection]) id time)
    (inside : id ∈ selection.ids) : time < past.length := by
  obtain ⟨before, outside, after, split, rfl, missing, -⟩ := joined
  cases after with
  | nil =>
      have same : selection = outside := by
        have lasts := congrArg List.getLast? split
        simpa using lasts
      exact absurd (same ▸ inside) missing
  | cons next rest =>
      have lengths := congrArg List.length split
      simp only [List.length_append, List.length_cons, List.length_nil] at lengths
      omega

theorem inJoiningOrder_empty : InJoiningOrder [] (empty : Selection I) := by
  refine ⟨fun _ => 0, ?_, List.Pairwise.nil⟩
  intro id inside
  cases inside

/-- From one moment to the next some members go, or one comes. -/
inductive Turns (selection next : Selection I) : Prop
  | loses (fewer : next.ids.Sublist selection.ids)
  | gains (id : I) (outside : id ∉ selection.ids) (more : next.ids = selection.ids ++ [id])

theorem InJoiningOrder.lose {past : List (Selection I)} {selection next : Selection I}
    (order : InJoiningOrder past selection) (fewer : next.ids.Sublist selection.ids) :
    InJoiningOrder (past ++ [selection]) next := by
  obtain ⟨joined, times, increasing⟩ := order
  refine ⟨joined, ?_, increasing.sublist fewer⟩
  intro id inside
  exact (times id (fewer.subset inside)).append inside

theorem InJoiningOrder.gain [DecidableEq I] {past : List (Selection I)}
    {selection next : Selection I} (order : InJoiningOrder past selection) {id : I}
    (outside : id ∉ selection.ids) (more : next.ids = selection.ids ++ [id]) :
    InJoiningOrder (past ++ [selection]) next := by
  obtain ⟨joined, times, increasing⟩ := order
  have others : ∀ other ∈ selection.ids,
      Function.update joined id past.length other = joined other := by
    intro other inside
    apply Function.update_of_ne
    intro same
    exact outside (same ▸ inside)
  refine ⟨Function.update joined id past.length, ?_, ?_⟩
  · intro other inside
    rw [more, List.mem_append, List.mem_singleton] at inside
    rcases inside with earlier | rfl
    · rw [others other earlier]
      apply (times other earlier).append
      rw [more]
      exact List.mem_append_left _ earlier
    · rw [Function.update_self]
      refine ⟨past, selection, [next], by simp, rfl, outside, ?_⟩
      intro later among
      rw [List.mem_singleton.mp among, more]
      simp
  · rw [more, List.pairwise_append]
    refine ⟨?_, List.pairwise_singleton _ _, ?_⟩
    · apply increasing.imp_of_mem
      intro one other inside insideToo before
      rw [others one inside, others other insideToo]
      exact before
    · intro one inside last among
      rw [List.mem_singleton.mp among, others one inside, Function.update_self]
      exact (times one inside).lt_length inside

theorem InJoiningOrder.turn [DecidableEq I] {past : List (Selection I)}
    {selection next : Selection I} (order : InJoiningOrder past selection)
    (turns : selection.Turns next) : InJoiningOrder (past ++ [selection]) next := by
  cases turns with
  | loses fewer => exact order.lose fewer
  | gains id outside more => exact order.gain outside more

end Joining

/-! ## One identifier at a time -/

section Successive
variable {I : Type}

/-- The selections that are left behind when identifiers are taken up one after the other. -/
def successive (change : Selection I → I → Selection I) (selection : Selection I) :
    List I → List (Selection I)
  | [] => []
  | id :: rest => selection :: successive change (change selection id) rest

variable [DecidableEq I]

omit [DecidableEq I] in
theorem turns_filter (selection : Selection I) (keep : I → Bool) :
    selection.Turns (selection.filter keep) :=
  .loses List.filter_sublist

theorem turns_insert (selection : Selection I) (id : I) :
    selection.Turns (selection.insert id) := by
  by_cases inside : id ∈ selection.ids
  · rw [insert_of_mem inside]
    exact .loses (List.Sublist.refl _)
  · exact .gains id inside (ids_insert_of_not_mem inside)

theorem turns_flip (selection : Selection I) (id : I) : selection.Turns (selection.flip id) := by
  unfold flip
  split
  · exact selection.turns_filter _
  · exact selection.turns_insert id

theorem turns_set (selection : Selection I) (id : I) (selected : Bool) :
    selection.Turns (selection.set id selected) := by
  cases selected with
  | false => exact selection.turns_filter _
  | true => exact selection.turns_insert id

theorem InJoiningOrder.successive {change : Selection I → I → Selection I}
    (turns : ∀ selection id, Turns selection (change selection id)) :
    ∀ (ids : List I) {past : List (Selection I)} {selection : Selection I},
      InJoiningOrder past selection →
        InJoiningOrder (past ++ selection.successive change ids)
          (ids.foldl change selection) := by
  intro ids
  induction ids with
  | nil =>
      intro past selection order
      simpa [Selection.successive] using order
  | cons id rest ih =>
      intro past selection order
      have later := ih (order.turn (turns selection id))
      simpa [Selection.successive] using later

end Successive

/-! ## Runs -/

section Runs
variable {R : Type} [Record R]

def after (selection : Selection (Record.Id R)) : SelectionStep R → Selection (Record.Id R)
  | .set id selected => selection.set id selected
  | .insertAll ids => selection.insertAll ids
  | .invert ids => selection.invert ids
  | .clear => empty
  | .addWhere candidates test => (selection.addWhere candidates test).2
  | .keepOnly present => (selection.keepOnly present).2

def run (selection : Selection (Record.Id R)) : List (SelectionStep R) → Selection (Record.Id R)
  | [] => selection
  | step :: rest => (selection.after step).run rest

/-- The selections that a step leaves behind, from this one on. -/
def leftBy (selection : Selection (Record.Id R)) :
    SelectionStep R → List (Selection (Record.Id R))
  | .insertAll ids => selection.successive insert ids
  | .invert ids => selection.successive flip ids
  | .addWhere candidates test =>
      selection.successive insert ((candidates.filter test).map Record.id)
  | .set _ _ | .clear | .keepOnly _ => [selection]

/-- The selections that a run leaves behind. -/
def leftByAll (selection : Selection (Record.Id R)) :
    List (SelectionStep R) → List (Selection (Record.Id R))
  | [] => []
  | step :: rest => selection.leftBy step ++ (selection.after step).leftByAll rest

theorem InJoiningOrder.after {past : List (Selection (Record.Id R))}
    {selection : Selection (Record.Id R)} (order : InJoiningOrder past selection)
    (step : SelectionStep R) :
    InJoiningOrder (past ++ selection.leftBy step) (selection.after step) := by
  cases step with
  | set id selected => exact order.turn (selection.turns_set id selected)
  | insertAll ids => exact InJoiningOrder.successive turns_insert ids order
  | invert ids => exact InJoiningOrder.successive turns_flip ids order
  | clear => exact order.lose (List.nil_sublist _)
  | addWhere candidates test => exact InJoiningOrder.successive turns_insert _ order
  | keepOnly present => exact order.turn (selection.turns_filter _)

theorem InJoiningOrder.run {past : List (Selection (Record.Id R))}
    {selection : Selection (Record.Id R)} (order : InJoiningOrder past selection)
    (steps : List (SelectionStep R)) :
    InJoiningOrder (past ++ selection.leftByAll steps) (selection.run steps) := by
  induction steps generalizing past selection with
  | nil => simpa [leftByAll, Selection.run] using order
  | cons step rest ih =>
      have later := ih (order.after step)
      simpa [leftByAll, Selection.run] using later

/-! ## The laws of the operations -/

theorem set_set (selection : Selection (Record.Id R)) (id : Record.Id R) (selected : Bool) :
    (selection.set id selected).set id selected = selection.set id selected := by
  cases selected with
  | false =>
      apply erase_of_not_mem
      simp [set]
  | true =>
      apply insert_of_mem
      simp [set]

theorem insertAll_insertAll (selection : Selection (Record.Id R)) (ids : List (Record.Id R)) :
    (selection.insertAll ids).insertAll ids = selection.insertAll ids := by
  apply insertAll_of_subset
  intro id among
  exact mem_insertAll.mpr (.inr among)

theorem addWhere_addWhere (selection : Selection (Record.Id R)) (candidates : List R)
    (test : R → Bool) :
    let grown := (selection.addWhere candidates test).2
    grown.addWhere candidates test = (0, grown) := by
  intro grown
  have again : grown.insertAll ((candidates.filter test).map Record.id) = grown :=
    selection.insertAll_insertAll _
  simp only [addWhere, addAll, again, Nat.sub_self]

theorem mem_invert_invert (selection : Selection (Record.Id R)) (ids : List (Record.Id R))
    (id : Record.Id R) :
    id ∈ ((selection.invert ids).invert ids).ids ↔ id ∈ selection.ids := by
  rw [mem_invert, mem_invert]
  tauto

theorem count_verdicts (selection : Selection (Record.Id R)) {ids : List (Record.Id R)}
    (nonempty : ids ≠ []) :
    [selection.holdsAll ids, selection.holdsSome ids,
      ids.all fun id => !selection.contains id].count true = 1 := by
  have all : selection.holdsAll ids = decide (∀ id ∈ ids, id ∈ selection.ids) := by
    rw [Bool.eq_iff_iff, holdsAll_iff, decide_eq_true_iff]
    exact and_iff_right nonempty
  have some : selection.holdsSome ids = (decide (∃ id ∈ ids, id ∈ selection.ids) &&
      !decide (∀ id ∈ ids, id ∈ selection.ids)) := by
    rw [Bool.eq_iff_iff, holdsSome_iff]
    simp
  have none : (ids.all fun id => !selection.contains id) =
      !decide (∃ id ∈ ids, id ∈ selection.ids) := by
    rw [Bool.eq_iff_iff]
    simp [contains]
  rw [all, some, none]
  by_cases every : ∀ id ∈ ids, id ∈ selection.ids
  · obtain ⟨id, among⟩ := List.exists_mem_of_ne_nil ids nonempty
    have one : ∃ id ∈ ids, id ∈ selection.ids := ⟨id, among, every id among⟩
    rw [decide_eq_true every, decide_eq_true one]
    rfl
  · rw [decide_eq_false every]
    cases decide (∃ id ∈ ids, id ∈ selection.ids) <;> rfl

/-- What the operations make of a selection, in terms of its members. -/
structure Lawful (selection : Selection (Record.Id R)) : Prop where
  set_again : ∀ id selected,
    (selection.set id selected).set id selected = selection.set id selected
  insertAll_again : ∀ ids, (selection.insertAll ids).insertAll ids = selection.insertAll ids
  addWhere_again : ∀ candidates test,
    let grown := (selection.addWhere candidates test).2
    grown.addWhere candidates test = (0, grown)
  gained : ∀ candidates test,
    let (added, grown) := selection.addWhere candidates test
    added = (grown.ids.filter fun id => id ∉ selection.ids).length
  turned : ∀ ids id,
    id ∈ (selection.invert ids).ids ↔ (id ∈ selection.ids ↔ Even (ids.count id))
  unturned : ∀ ids,
    ((selection.invert ids).ids.filter fun id => id ∉ ids) =
      selection.ids.filter fun id => id ∉ ids
  turned_back : ∀ ids id,
    id ∈ ((selection.invert ids).invert ids).ids ↔ id ∈ selection.ids
  kept : ∀ present,
    (selection.keepOnly present).2.ids = selection.ids.filter fun id => id ∈ present
  lost : ∀ present,
    let (dropped, kept) := selection.keepOnly present
    dropped = (selection.ids.filter fun id => id ∉ kept.ids).length
  one_verdict : ∀ ids, ids ≠ [] →
    [selection.holdsAll ids, selection.holdsSome ids,
      ids.all fun id => !selection.contains id].count true = 1
  no_verdict : selection.holdsAll [] = false ∧ selection.holdsSome [] = false

theorem lawful (selection : Selection (Record.Id R)) : selection.Lawful := by
  constructor
  case set_again => exact selection.set_set
  case insertAll_again => exact selection.insertAll_insertAll
  case addWhere_again => exact selection.addWhere_addWhere
  case gained =>
    intro candidates test
    exact selection.addAll_fst ((candidates.filter test).map Record.id)
  case turned =>
    intro ids id
    exact mem_invert
  case unturned =>
    intro ids
    apply filter_invert
    intro id among
    simpa using among
  case turned_back => exact selection.mem_invert_invert
  case kept => exact selection.ids_keepOnly
  case lost => exact selection.keepOnly_fst
  case one_verdict =>
    intro ids nonempty
    exact selection.count_verdicts nonempty
  case no_verdict => exact ⟨rfl, rfl⟩

/-- After any run from the empty selection the members are distinct and stand in the order in which
each of them last joined, and all operations obey their laws there. -/
theorem members_in_order_of_joining (steps : List (SelectionStep R)) :
    let selection := (empty : Selection (Record.Id R)).run steps
    selection.ids.Nodup ∧ InJoiningOrder (empty.leftByAll steps) selection ∧
      selection.Lawful := by
  intro selection
  have order : InJoiningOrder (empty.leftByAll steps) selection := by
    have order := InJoiningOrder.run inJoiningOrder_empty steps
    rwa [List.nil_append] at order
  exact ⟨selection.nodup, order, selection.lawful⟩

end Runs

end Selection

end AdaptiveView

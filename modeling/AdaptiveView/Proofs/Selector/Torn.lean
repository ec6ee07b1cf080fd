import AdaptiveView.Proofs.Selector.Restart

/-!
# Steps that are stored in part

A step of a selector stores its choice first and the flag after it.  The program may stop in between,
and either write may fail for itself and is passed over, so any part of the writes of a step may take
effect.  What is opened from such a store is the selector as it was before the step or as it is after
it, except in two cases.  The flag of a pin may stand beside an older choice, and the choice of a
release beside the flag of an older pin.  In both the store tells of a pin that nobody made.

Nothing is said here of a followed size over a flag that tells of a pin of nothing.
-/

set_option autoImplicit false

namespace AdaptiveView

open WorkingStore

/-- Writes one after the other, each as far as it takes effect. -/
def saveEach {σ : Type} [PreferenceStore σ] (store : σ) (writes : List (String × String)) : σ :=
  writes.foldl (fun store write => save store write.1 write.2) store

theorem sublist_pair {A : Type} {first second : A} {part : List A}
    (within : part.Sublist [first, second]) :
    part = [] ∨ part = [first] ∨ part = [second] ∨ part = [first, second] := by
  cases within with
  | cons _ withoutFirst =>
      cases withoutFirst with
      | cons _ nothing =>
          cases nothing
          exact .inl rfl
      | cons_cons _ nothing =>
          cases nothing
          exact .inr (.inr (.inl rfl))
  | cons_cons _ withFirst =>
      cases withFirst with
      | cons _ nothing =>
          cases nothing
          exact .inr (.inl rfl)
      | cons_cons _ nothing =>
          cases nothing
          exact .inr (.inr (.inr rfl))

namespace Selector

variable {P V : Type} [Recommender P V] [Keyed V] [DecidableEq V]

/-- The writes of a step, in order. -/
def writes (selector : Selector P V) : SelectorStep V → List (String × String)
  | .pin value =>
      [(choiceKey P selector.screen, Keyed.key value), (flagKey P selector.screen, "false")]
  | .resize count =>
      if selector.Follows count then
        [(choiceKey P selector.screen,
          Keyed.key (Recommender.recommend selector.policy count))]
      else []
  | .release =>
      [(choiceKey P selector.screen, Keyed.key selector.recommendation),
        (flagKey P selector.screen, "true")]

/-- Whether or not they take effect, these are all writes of a step. -/
theorem step_snd {σ : Type} [PreferenceStore σ] (selector : Selector P V) (store : σ)
    (next : SelectorStep V) :
    (selector.step store next).2 = saveEach store (selector.writes next) := by
  cases next with
  | pin value => rfl
  | resize count =>
      rw [step, resize_snd, writes]
      dsimp only
      split <;> rfl
  | release => rfl

/-- A part of the writes of a step that leaves the store telling of a pin that nobody made. -/
def Torn (selector : Selector P V) (stored : StoredChoice) (part : List (String × String)) :
    SelectorStep V → Prop
  | .pin value =>
      part = [(flagKey P selector.screen, "false")] ∧ stored.flag ≠ some "false" ∧
        ∃ older, stored.choice.bind Keyed.ofKey? = some older ∧ older ≠ value
  | .resize _ => False
  | .release =>
      part = [(choiceKey P selector.screen, Keyed.key selector.recommendation)] ∧
        stored.flag = some "false" ∧
        ¬ (selector.kind = .pinned ∧ selector.value = selector.recommendation)

/-- The pin that nobody made. -/
def tornPin (selector : Selector P V) (stored : StoredChoice) : SelectorStep V → Selector P V
  | .pin value =>
      { selector with
        kind := .pinned
        value := (stored.choice.bind Keyed.ofKey?).getD value }
  | .resize count => selector.moved (.resize count)
  | .release => { selector with kind := .pinned, value := selector.recommendation }

/-! ## The texts that a part of the writes leaves -/

section
variable {σ : Type} [PreferenceStore σ] [WorkingStore σ] {store : σ}

omit [Keyed V] [DecidableEq V] in
theorem storedChoice_save_choice (works : Works store) (screen text : String) :
    storedChoice P (save store (choiceKey P screen) text) screen =
      { storedChoice P store screen with choice := some text } := by
  have apart : flagKey P screen ≠ choiceKey P screen := (choiceKey_ne_flagKey screen).symm
  simp [storedChoice, content_save works, apart]

omit [Keyed V] [DecidableEq V] in
theorem storedChoice_save_flag (works : Works store) (screen text : String) :
    storedChoice P (save store (flagKey P screen) text) screen =
      { storedChoice P store screen with flag := some text } := by
  have apart : choiceKey P screen ≠ flagKey P screen := choiceKey_ne_flagKey screen
  simp [storedChoice, content_save works, apart]

omit [Keyed V] [DecidableEq V] in
/-- Of a choice and a flag either may have been stored, both or none. -/
theorem storedChoice_saveEach_pair (works : Works store) (screen choice flag : String)
    {part : List (String × String)}
    (within : part.Sublist [(choiceKey P screen, choice), (flagKey P screen, flag)]) :
    let stored := storedChoice P store screen
    let left := storedChoice P (saveEach store part) screen
    part = [] ∧ left = stored ∨
      part = [(choiceKey P screen, choice)] ∧ left = { stored with choice := some choice } ∨
      part = [(flagKey P screen, flag)] ∧ left = { stored with flag := some flag } ∨
      part = [(choiceKey P screen, choice), (flagKey P screen, flag)] ∧
        left = ⟨some flag, some choice⟩ := by
  intro stored left
  rcases sublist_pair within with rfl | rfl | rfl | rfl
  · exact .inl ⟨rfl, rfl⟩
  · exact .inr (.inl ⟨rfl, storedChoice_save_choice works screen choice⟩)
  · exact .inr (.inr (.inl ⟨rfl, storedChoice_save_flag works screen flag⟩))
  · refine .inr (.inr (.inr ⟨rfl, ?_⟩))
    have first := works_save works (choiceKey P screen) choice
    have both : left = _ := storedChoice_save_flag first screen flag
    rw [both, storedChoice_save_choice works]

end

/-! ## What is opened from them -/

/-- The selector that is opened from these texts with another count. -/
def reopened (selector : Selector P V) (count : Nat) (left : StoredChoice) : Selector P V :=
  restored selector.policy selector.screen count left

omit [DecidableEq V] in
theorem AgreesWith.of_flag_ne {selector : Selector P V} {stored : StoredChoice}
    (agrees : selector.AgreesWith stored) (unpinned : stored.flag ≠ some "false") :
    selector.kind = .auto ∧ selector.value = selector.recommendation := by
  unfold AgreesWith at agrees
  rw [restored_of_flag_ne _ _ _ unpinned] at agrees
  exact ⟨(congrArg Selector.kind agrees).symm, (congrArg Selector.value agrees).symm⟩

omit [DecidableEq V] in
/-- Texts that tell of no pin at all are as good as any other such texts. -/
theorem AgreesWith.reopened_of_unpinned {selector : Selector P V} {stored left : StoredChoice}
    (agrees : selector.AgreesWith stored) (unpinned : stored.flag ≠ some "false")
    (stillUnpinned : left.flag ≠ some "false" ∨ left.Damaged V) :
    selector.reopened selector.count left = selector := by
  have opened : selector.reopened selector.count left =
      ⟨selector.policy, selector.screen, .auto, selector.recommendation, selector.count⟩ := by
    rcases stillUnpinned with unpinned | damaged
    · exact restored_of_flag_ne _ _ _ unpinned
    · exact restored_of_damaged _ _ _ damaged
  unfold AgreesWith at agrees
  rw [restored_of_flag_ne _ _ _ unpinned] at agrees
  exact opened.trans agrees

/-- Part of the writes of a pin. -/
theorem AgreesWith.pin_in_part [LawfulKeyed V] {selector : Selector P V} {stored : StoredChoice}
    (agrees : selector.AgreesWith stored) (value : V) {part : List (String × String)}
    {left : StoredChoice}
    (outcome : part = [] ∧ left = stored ∨
      part = [(choiceKey P selector.screen, Keyed.key value)] ∧
        left = { stored with choice := some (Keyed.key value) } ∨
      part = [(flagKey P selector.screen, "false")] ∧ left = { stored with flag := some "false" } ∨
      part = [(choiceKey P selector.screen, Keyed.key value),
          (flagKey P selector.screen, "false")] ∧
        left = ⟨some "false", some (Keyed.key value)⟩) :
    let after := selector.moved (.pin value)
    let opened := selector.reopened after.count left
    ¬ selector.Torn stored part (.pin value) ∧ (opened = selector ∨ opened = after) ∨
      selector.Torn stored part (.pin value) ∧ opened = selector.tornPin stored (.pin value) := by
  intro after opened
  have known : ((some (Keyed.key value)).bind Keyed.ofKey? : Option V) = some value :=
    LawfulKeyed.ofKey?_key value
  rcases outcome with ⟨rfl, rfl⟩ | ⟨rfl, rfl⟩ | ⟨rfl, rfl⟩ | ⟨rfl, rfl⟩
  · refine .inl ⟨?_, .inl agrees⟩
    rintro ⟨other, -⟩
    cases other
  · have whole : ¬ selector.Torn stored [(choiceKey P selector.screen, Keyed.key value)]
        (.pin value) := by
      rintro ⟨other, -⟩
      simp [choiceKey_ne_flagKey] at other
    refine .inl ⟨whole, ?_⟩
    by_cases pinned : stored.flag = some "false"
    · exact .inr (restored_of_pinned _ _ _ pinned known)
    · exact .inl (agrees.reopened_of_unpinned pinned (.inl pinned))
  · by_cases pinned : stored.flag = some "false"
    · have same : ({ stored with flag := some "false" } : StoredChoice) = stored := by
        rw [← pinned]
      refine .inl ⟨fun torn => torn.2.1 pinned, .inl ?_⟩
      exact (congrArg (selector.reopened selector.count) same).trans agrees
    · cases older : (stored.choice.bind Keyed.ofKey? : Option V) with
      | none =>
          refine .inl ⟨?_, .inl (agrees.reopened_of_unpinned pinned (.inr ⟨rfl, older⟩))⟩
          rintro ⟨-, -, other, stands, -⟩
          rw [older] at stands
          cases stands
      | some other =>
          have opens : opened = { selector with kind := .pinned, value := other } :=
            restored_of_pinned _ _ _ rfl older
          by_cases same : other = value
          · subst same
            refine .inl ⟨?_, .inr opens⟩
            rintro ⟨-, -, another, stands, differs⟩
            rw [older] at stands
            exact differs (Option.some.inj stands).symm
          · refine .inr ⟨⟨rfl, pinned, other, older, same⟩, ?_⟩
            rw [opens, tornPin, older]
            rfl
  · refine .inl ⟨?_, .inr (restored_of_pinned _ _ _ rfl known)⟩
    rintro ⟨other, -⟩
    simp at other

/-- Part of the writes of a release. -/
theorem AgreesWith.release_in_part [LawfulKeyed V] {selector : Selector P V}
    {stored : StoredChoice} (agrees : selector.AgreesWith stored)
    {part : List (String × String)} {left : StoredChoice}
    (outcome : part = [] ∧ left = stored ∨
      part = [(choiceKey P selector.screen, Keyed.key selector.recommendation)] ∧
        left = { stored with choice := some (Keyed.key selector.recommendation) } ∨
      part = [(flagKey P selector.screen, "true")] ∧ left = { stored with flag := some "true" } ∨
      part = [(choiceKey P selector.screen, Keyed.key selector.recommendation),
          (flagKey P selector.screen, "true")] ∧
        left = ⟨some "true", some (Keyed.key selector.recommendation)⟩) :
    let after := selector.moved .release
    let opened := selector.reopened after.count left
    ¬ selector.Torn stored part .release ∧ (opened = selector ∨ opened = after) ∨
      selector.Torn stored part .release ∧ opened = selector.tornPin stored .release := by
  intro after opened
  have released : ¬ (some "true" = some "false") := by decide
  rcases outcome with ⟨rfl, rfl⟩ | ⟨rfl, rfl⟩ | ⟨rfl, rfl⟩ | ⟨rfl, rfl⟩
  · refine .inl ⟨?_, .inl agrees⟩
    rintro ⟨other, -⟩
    cases other
  · by_cases pinned : stored.flag = some "false"
    · have opens : opened = selector.tornPin stored .release :=
        restored_of_pinned _ _ _ pinned (LawfulKeyed.ofKey?_key selector.recommendation)
      by_cases already : selector.kind = .pinned ∧ selector.value = selector.recommendation
      · refine .inl ⟨fun torn => torn.2.2 already, .inl (opens.trans ?_)⟩
        obtain ⟨policy, screen, kind, value, count⟩ := selector
        obtain ⟨rfl, same⟩ := already
        simp only [tornPin, ← same]
      · exact .inr ⟨⟨rfl, pinned, already⟩, opens⟩
    · refine .inl ⟨fun torn => pinned torn.2.1, .inl ?_⟩
      exact agrees.reopened_of_unpinned pinned (.inl pinned)
  · refine .inl ⟨?_, .inr (restored_of_flag_ne _ _ _ released)⟩
    rintro ⟨other, -⟩
    simp [(choiceKey_ne_flagKey selector.screen).symm] at other
  · refine .inl ⟨?_, .inr (restored_of_flag_ne _ _ _ released)⟩
    rintro ⟨other, -⟩
    simp at other

omit [DecidableEq V] in
/-- A size has one write or none, and unless it is followed over a pin of nothing it changes nothing
of what is opened. -/
theorem AgreesWith.resize_in_part {selector : Selector P V} {stored left : StoredChoice}
    (agrees : selector.AgreesWith stored) (count : Nat)
    (sound : stored.Damaged V → ¬ selector.Follows count)
    (outcome : left = stored ∨ selector.Follows count ∧ left.flag = stored.flag) :
    selector.reopened count left = selector.reopened count stored := by
  rcases outcome with rfl | ⟨follows, sameFlag⟩
  · rfl
  · by_cases pinned : stored.flag = some "false"
    · cases older : (stored.choice.bind Keyed.ofKey? : Option V) with
      | none => exact absurd follows (sound ⟨pinned, older⟩)
      | some value =>
          unfold AgreesWith at agrees
          rw [restored_of_pinned _ _ _ pinned older] at agrees
          exact absurd follows (not_follows_of_pinned (congrArg Selector.kind agrees).symm count)
    · have unpinned : left.flag ≠ some "false" := by
        rw [sameFlag]
        exact pinned
      unfold reopened
      rw [restored_of_flag_ne _ _ _ pinned, restored_of_flag_ne _ _ _ unpinned]

/-- The pin that nobody made is neither the selector as it was nor the selector after the step. -/
theorem AgreesWith.tornPin_ne {selector : Selector P V} {stored : StoredChoice}
    (agrees : selector.AgreesWith stored) {part : List (String × String)}
    {next : SelectorStep V} (torn : selector.Torn stored part next) :
    selector.tornPin stored next ≠ selector.reopened (selector.moved next).count stored ∧
      selector.tornPin stored next ≠ selector.moved next := by
  cases next with
  | pin value =>
      obtain ⟨-, unpinned, older, known, differs⟩ := torn
      constructor
      · intro same
        have pinned : selector.kind = .pinned :=
          (congrArg Selector.kind (same.trans agrees)).symm
        rw [(agrees.of_flag_ne unpinned).1] at pinned
        cases pinned
      · intro same
        have picked := congrArg Selector.value same
        simp only [tornPin, known, Option.getD_some, moved] at picked
        exact differs picked
  | resize count => cases torn
  | release =>
      obtain ⟨-, -, other⟩ := torn
      constructor
      · intro same
        have pinned := (same.trans agrees).symm
        exact other ⟨congrArg Selector.kind pinned, congrArg Selector.value pinned⟩
      · intro same
        have kinds := congrArg Selector.kind same
        cases kinds

section
variable {σ : Type} [PreferenceStore σ] [WorkingStore σ] {store : σ}

theorem works_saveEach (works : Works store) (writes : List (String × String)) :
    Works (saveEach store writes) := by
  unfold saveEach
  induction writes generalizing store with
  | nil => exact works
  | cons write rest later => exact later (works_save works _ _)

/-- What part of a followed size leaves. -/
theorem storedChoice_saveEach_resize (works : Works store) (selector : Selector P V)
    (count : Nat) {part : List (String × String)}
    (within : part.Sublist (selector.writes (.resize count))) :
    let stored := storedChoice P store selector.screen
    let left := storedChoice P (saveEach store part) selector.screen
    left = stored ∨ selector.Follows count ∧ left.flag = stored.flag := by
  intro stored left
  by_cases follows : selector.Follows count
  · simp only [writes, follows, if_true] at within
    cases within with
    | cons _ nothing =>
        cases nothing
        exact .inl rfl
    | cons_cons _ nothing =>
        cases nothing
        have only : left = { stored with choice := some _ } :=
          storedChoice_save_choice works selector.screen _
        refine .inr ⟨follows, ?_⟩
        rw [only]
  · simp only [writes, follows, if_false, List.sublist_nil] at within
    subst within
    exact .inl rfl

/-- A part of a step leaves what opens as before or as after, or it is torn. -/
theorem settled_or_torn [LawfulKeyed V] (works : Works store) {selector : Selector P V}
    (agrees : selector.AgreesWith (storedChoice P store selector.screen)) (next : SelectorStep V)
    (sound : (storedChoice P store selector.screen).Damaged V →
      ∀ count, next = .resize count → ¬ selector.Follows count)
    {part : List (String × String)} (within : part.Sublist (selector.writes next)) :
    let stored := storedChoice P store selector.screen
    let after := selector.moved next
    let opened :=
      selector.reopened after.count (storedChoice P (saveEach store part) selector.screen)
    ¬ selector.Torn stored part next ∧
        (opened = selector.reopened after.count stored ∨ opened = after) ∨
      selector.Torn stored part next ∧ opened = selector.tornPin stored next := by
  intro stored after opened
  cases next with
  | pin value =>
      have same : selector.reopened after.count stored = selector := agrees
      rw [same]
      exact agrees.pin_in_part value (storedChoice_saveEach_pair works _ _ _ within)
  | resize count =>
      have undamaged : stored.Damaged V → ¬ selector.Follows count :=
        fun damaged => sound damaged count rfl
      refine .inl ⟨id, .inl ?_⟩
      exact agrees.resize_in_part count undamaged
        (storedChoice_saveEach_resize works selector count within)
  | release =>
      have same : selector.reopened after.count stored = selector := agrees
      rw [same]
      exact agrees.release_in_part (storedChoice_saveEach_pair works _ _ _ within)

/-- Of a selector that its store describes take one step, and of the writes of that step any part.
What is opened then is the selector as it would have been opened before the step or as it is after it,
unless just the flag of a pin was stored beside another choice, or just the choice of a release beside
the flag of another pin; then it is the pin that nobody made. -/
theorem opened_old_or_new_iff [LawfulKeyed V] (works : Works store) (selector : Selector P V)
    (agrees : (ofStore selector.policy store selector.screen selector.count).1 = selector)
    (next : SelectorStep V)
    (sound : (storedChoice P store selector.screen).Damaged V →
      ∀ count, next = .resize count → ¬ selector.Follows count)
    {part : List (String × String)} (within : part.Sublist (selector.writes next)) :
    let stored := storedChoice P store selector.screen
    let after := (selector.step store next).1
    let before : Selector P V :=
      (ofStore selector.policy store selector.screen after.count).1
    let opened : Selector P V :=
      (ofStore selector.policy (saveEach store part) selector.screen after.count).1
    (selector.step store next).2 = saveEach store (selector.writes next) ∧
      (opened = before ∨ opened = after ↔ ¬ selector.Torn stored part next) ∧
      (selector.Torn stored part next → opened = selector.tornPin stored next) := by
  intro stored after before opened
  have described : selector.AgreesWith stored := by
    rw [ofStore_fst works] at agrees
    exact agrees
  have moved : after = selector.moved next := step_fst selector store next
  have old : before = selector.reopened after.count stored := ofStore_fst works _ _ _
  have read : opened =
      selector.reopened after.count (storedChoice P (saveEach store part) selector.screen) :=
    ofStore_fst (works_saveEach works part) _ _ _
  have verdict := settled_or_torn works described next sound within
  refine ⟨step_snd selector store next, ?_⟩
  rw [old, read, moved]
  rcases verdict with ⟨whole, settled⟩ | ⟨torn, pin⟩
  · exact ⟨⟨fun _ => whole, fun _ => settled⟩, fun torn => absurd torn whole⟩
  · obtain ⟨notOld, notNew⟩ := described.tornPin_ne torn
    rw [pin]
    refine ⟨⟨?_, fun whole => absurd torn whole⟩, fun _ => rfl⟩
    rintro (same | same)
    · exact absurd same notOld
    · exact absurd same notNew

end

/-- What an automatic selector leaves that has followed a size. -/
def followedStore : MemoryStore :=
  ⟨⟨[("accounts.view_mode", "flat")]⟩, .new⟩

/-- The user pins the groups, and only the flag of the pin is stored. -/
theorem opened_after_torn_pin :
    let selector : Selector ViewModePolicy ViewMode :=
      (ofStore .standard followedStore "accounts" 10).1
    let part := [("accounts.view_mode_auto", "false")]
    let opened : Selector ViewModePolicy ViewMode :=
      (ofStore .standard (saveEach followedStore part) "accounts" 10).1
    part.Sublist (selector.writes (.pin .grouped)) ∧ selector.kind = .auto ∧
      opened = { selector with kind := .pinned } := by
  intro selector part opened
  have works : Works followedStore := trivial
  have within : part.Sublist (selector.writes (.pin .grouped)) := by decide
  have torn : selector.Torn (storedChoice ViewModePolicy followedStore "accounts") part
      (.pin .grouped) := ⟨rfl, by decide, .flat, by decide, by decide⟩
  have verdict := opened_old_or_new_iff works selector rfl (.pin .grouped)
    (fun damaged => absurd damaged (by decide)) within
  exact ⟨within, by decide, verdict.2.2 torn⟩

/-- The user goes back from pinned groups to the recommendation, and only its choice is stored. -/
theorem torn_release_opens_pinned :
    let store : MemoryStore :=
      ⟨⟨[("accounts.view_mode", "grouped"), ("accounts.view_mode_auto", "false")]⟩, .new⟩
    let selector : Selector ViewModePolicy ViewMode := (ofStore .standard store "accounts" 10).1
    let after := (selector.step store .release).1
    let part := [("accounts.view_mode", "flat")]
    let opened : Selector ViewModePolicy ViewMode :=
      (ofStore .standard (saveEach store part) "accounts" after.count).1
    part.Sublist (selector.writes .release) ∧
      (selector.kind, selector.value) = (.pinned, .grouped) ∧
      (after.kind, after.value) = (.auto, .flat) ∧
      (opened.kind, opened.value) = (.pinned, .flat) := by
  decide

end Selector

/-! ## In a database some of whose statements fail -/

namespace Database

theorem content_save_or_same (db : Database) (key value : String) :
    (save db key value).content = db.content ∨
      (save db key value).content =
        fun other => if other = key then some value else db.content other := by
  cases fails : db.fails db.statements with
  | true =>
      left
      funext other
      simp [save, PreferenceStore.write, upsert, statement, fails, content]
  | false =>
      cases table : db.table with
      | none =>
          left
          funext other
          simp [save, PreferenceStore.write, upsert, statement, fails, table, content]
      | some rows =>
          right
          funext other
          simp [save, PreferenceStore.write, upsert, statement, fails, table, content]

/-- Whichever statements fail, what a database holds after writes is what a sound one holds after a
part of them. -/
theorem content_saveEach (db : Database) (writes : List (String × String)) :
    ∃ part : List (String × String), part.Sublist writes ∧
      ∀ other : Database, other.Sound → other.content = db.content →
        (saveEach other part).content = (saveEach db writes).content := by
  induction writes generalizing db with
  | nil => exact ⟨[], .slnil, fun _ _ same => same⟩
  | cons write rest later =>
      obtain ⟨part, within, agree⟩ := later (save db write.1 write.2)
      rcases content_save_or_same db write.1 write.2 with failed | done
      · refine ⟨part, within.cons write, ?_⟩
        intro other sound same
        exact agree other sound (same.trans failed.symm)
      · refine ⟨write :: part, within.cons_cons write, ?_⟩
        intro other sound same
        have works : Works other := sound
        refine agree _ (works_save works write.1 write.2) ?_
        funext key
        have saved : (save other write.1 write.2).content key =
            if key = write.1 then some write.2 else other.content key :=
          content_save works write.1 write.2 key
        rw [done, ← same]
        exact saved

end Database

namespace Selector

variable {P V : Type} [Recommender P V] [Keyed V] [DecidableEq V]

/-- Statements of a step fail in any pattern.  Once the database works again, what is opened is the
selector as it was before the step or as it is after it, or it is the pin that nobody made. -/
theorem opened_after_failures [LawfulKeyed V] (db : Database) {sound later : Database}
    (works : sound.Sound) (same : sound.content = db.content) (selector : Selector P V)
    (agrees : (ofStore selector.policy sound selector.screen selector.count).1 = selector)
    (next : SelectorStep V)
    (undamaged : (storedChoice P sound selector.screen).Damaged V →
      ∀ count, next = .resize count → ¬ selector.Follows count)
    (worksLater : later.Sound) (left : later.content = (selector.step db next).2.content) :
    let stored := storedChoice P sound selector.screen
    let after := (selector.step db next).1
    let before : Selector P V :=
      (ofStore selector.policy sound selector.screen after.count).1
    let opened : Selector P V :=
      (ofStore selector.policy later selector.screen after.count).1
    opened = before ∨ opened = after ∨
      (∃ part : List (String × String), part.Sublist (selector.writes next) ∧
        selector.Torn stored part next) ∧ opened = selector.tornPin stored next := by
  intro stored after before opened
  obtain ⟨part, within, agree⟩ := db.content_saveEach (selector.writes next)
  have described : selector.AgreesWith stored := by
    rw [ofStore_fst works] at agrees
    exact agrees
  have texts : storedChoice P later selector.screen =
      storedChoice P (saveEach sound part) selector.screen := by
    have contents : later.content = (saveEach sound part).content := by
      rw [left, step_snd, agree sound works same]
    exact congrArg (fun held => StoredChoice.mk (held (flagKey P selector.screen))
      (held (choiceKey P selector.screen))) contents
  have moved : after = selector.moved next := step_fst selector db next
  have old : before = selector.reopened after.count stored := ofStore_fst works _ _ _
  have read : opened =
      selector.reopened after.count (storedChoice P (saveEach sound part) selector.screen) := by
    rw [← texts]
    exact ofStore_fst worksLater _ _ _
  rw [old, read, moved]
  rcases settled_or_torn works described next undamaged within with
    ⟨-, asBefore | asAfter⟩ | ⟨torn, pin⟩
  · exact .inl asBefore
  · exact .inr (.inl asAfter)
  · exact .inr (.inr ⟨⟨part, within, torn⟩, pin⟩)

end Selector

end AdaptiveView

import AdaptiveView.Proofs.Selector.Stored

/-!
# Selectors across a restart

A selector that is opened again should be the one that was closed.  Whether it is depends on what
the store held when the selector was first opened.  A flag that tells of a pin beside no known
choice is read as no pin; but the first size that such a selector follows puts a known choice beside
that flag, and from then on, until the user pins or releases, the store tells of a pin that nobody
made.  In every other run the selector comes back as it was.

The run lemmas follow a selector and its two stored texts together: `Kept` is the ordinary relation
of the two, `Dormant` and `Revived` are the two stages of a damaged pin.
-/

set_option autoImplicit false

namespace AdaptiveView

open WorkingStore

def SelectorStep.isResize {V : Type} : SelectorStep V → Bool
  | .resize _ => true
  | _ => false

namespace Selector

variable {P V : Type} [Recommender P V] [Keyed V] [DecidableEq V]

def movedBy (selector : Selector P V) : List (SelectorStep V) → Selector P V
  | [] => selector
  | first :: rest => (selector.moved first).movedBy rest

def leftBy (selector : Selector P V) (stored : StoredChoice) :
    List (SelectorStep V) → StoredChoice
  | [] => stored
  | first :: rest => (selector.moved first).leftBy (selector.leaves stored first) rest

section
variable {σ : Type} [PreferenceStore σ]

theorem run_fst (selector : Selector P V) (store : σ) (steps : List (SelectorStep V)) :
    (selector.run store steps).1 = selector.movedBy steps := by
  induction steps generalizing selector store with
  | nil => rfl
  | cons first rest ih => rw [run, ih, step_fst, movedBy]

theorem storedChoice_run [WorkingStore σ] {store : σ} (works : Works store)
    (selector : Selector P V) (steps : List (SelectorStep V)) :
    Works (selector.run store steps).2 ∧
      storedChoice P (selector.run store steps).2 selector.screen =
        selector.leftBy (storedChoice P store selector.screen) steps := by
  induction steps generalizing selector store with
  | nil => exact ⟨works, rfl⟩
  | cons first rest ih =>
      obtain ⟨worksRest, storedRest⟩ :=
        ih (works_step works selector first) (selector.step store first).1
      refine ⟨worksRest, ?_⟩
      have sameScreen : (selector.step store first).1.screen = selector.screen := by
        rw [step_fst, screen_moved]
      rw [sameScreen, storedChoice_step works] at storedRest
      rw [run, storedRest, step_fst, leftBy]

end

/-! ## Three ways to stand to the store -/

/-- The store describes the selector. -/
def AgreesWith (selector : Selector P V) (stored : StoredChoice) : Prop :=
  restored selector.policy selector.screen selector.count stored = selector

/-- The store describes the selector, and its flag is no lie. -/
def Kept (selector : Selector P V) (stored : StoredChoice) : Prop :=
  restored selector.policy selector.screen selector.count stored = selector ∧
    ¬ stored.Damaged V

/-- The store describes the selector, but its flag tells of a pin of nothing. -/
def Dormant (selector : Selector P V) (stored : StoredChoice) : Prop :=
  restored selector.policy selector.screen selector.count stored = selector ∧ stored.Damaged V

/-- The choice of an automatic selector stands beside a flag that tells of a pin. -/
def Revived (selector : Selector P V) (stored : StoredChoice) : Prop :=
  selector.kind = .auto ∧ selector.value = selector.recommendation ∧
    stored = ⟨some "false", some (Keyed.key selector.value)⟩

omit [DecidableEq V] in
theorem restored_of_flag_ne (policy : P) (screen : String) (count : Nat) {stored : StoredChoice}
    (unpinned : stored.flag ≠ some "false") :
    (restored policy screen count stored : Selector P V) =
      ⟨policy, screen, .auto, Recommender.recommend policy count, count⟩ := by
  simp [restored, restore, unpinned]

omit [DecidableEq V] in
theorem restored_of_damaged (policy : P) (screen : String) (count : Nat) {stored : StoredChoice}
    (damaged : stored.Damaged V) :
    (restored policy screen count stored : Selector P V) =
      ⟨policy, screen, .auto, Recommender.recommend policy count, count⟩ := by
  obtain ⟨flag, nothing⟩ := damaged
  simp [restored, restore, flag, nothing]

omit [DecidableEq V] in
theorem restored_of_pinned (policy : P) (screen : String) (count : Nat) {stored : StoredChoice}
    {value : V} (flag : stored.flag = some "false")
    (choice : stored.choice.bind Keyed.ofKey? = some value) :
    restored policy screen count stored = ⟨policy, screen, .pinned, value, count⟩ := by
  simp [restored, restore, flag, choice]

theorem moved_restored (policy : P) (screen : String) (before after : Nat)
    (stored : StoredChoice) :
    (restored policy screen before stored : Selector P V).moved (.resize after) =
      restored policy screen after stored := by
  by_cases flag : stored.flag = some "false"
  · cases known : (stored.choice.bind Keyed.ofKey? : Option V) with
    | none =>
        rw [restored_of_damaged policy screen before ⟨flag, known⟩,
          restored_of_damaged policy screen after ⟨flag, known⟩]
        exact moved_resize_of_auto rfl after
    | some value =>
        rw [restored_of_pinned policy screen before flag known,
          restored_of_pinned policy screen after flag known]
        simp only [moved, not_follows_of_pinned, if_false]
  · rw [restored_of_flag_ne policy screen before flag, restored_of_flag_ne policy screen after flag]
    exact moved_resize_of_auto rfl after

theorem kept_of_not_resize [LawfulKeyed V] (selector : Selector P V) (stored : StoredChoice)
    {next : SelectorStep V} (deliberate : next.isResize = false) :
    Kept (selector.moved next) (selector.leaves stored next) := by
  cases next with
  | pin value =>
      have known : ((some (Keyed.key value)).bind Keyed.ofKey? : Option V) = some value :=
        LawfulKeyed.ofKey?_key value
      refine ⟨restored_of_pinned _ _ _ rfl known, ?_⟩
      rintro ⟨-, nothing⟩
      simp [leaves, known] at nothing
  | resize count => simp [SelectorStep.isResize] at deliberate
  | release =>
      refine ⟨restored_of_flag_ne _ _ _ (by simp [leaves]), ?_⟩
      rintro ⟨flag, -⟩
      simp [leaves] at flag

theorem Kept.resize {selector : Selector P V} {stored : StoredChoice}
    (kept : Kept selector stored) (count : Nat) :
    Kept (selector.moved (.resize count)) (selector.leaves stored (.resize count)) := by
  obtain ⟨described, whole⟩ := kept
  by_cases flag : stored.flag = some "false"
  · cases choice : (stored.choice.bind Keyed.ofKey? : Option V) with
    | none => exact absurd ⟨flag, choice⟩ whole
    | some value =>
        rw [restored_of_pinned _ _ _ flag choice] at described
        have still : ¬ selector.Follows count :=
          not_follows_of_pinned (congrArg Selector.kind described).symm count
        have same : selector.leaves stored (.resize count) = stored := by
          simp [leaves, still]
        have value_eq : selector.value = value := (congrArg Selector.value described).symm
        have kind_eq : selector.kind = .pinned := (congrArg Selector.kind described).symm
        rw [same]
        refine ⟨?_, whole⟩
        rw [restored_of_pinned _ _ _ flag choice]
        simp [moved, still, value_eq, kind_eq]
  · rw [restored_of_flag_ne _ _ _ flag] at described
    have auto : selector.kind = .auto := (congrArg Selector.kind described).symm
    have unpinned : (selector.leaves stored (.resize count)).flag ≠ some "false" := flag
    refine ⟨?_, fun damaged => flag damaged.1⟩
    rw [restored_of_flag_ne _ _ _ unpinned, moved_resize_of_auto auto]
    simp [auto]

omit [DecidableEq V] in
theorem Dormant.unchosen {selector : Selector P V} {stored : StoredChoice}
    (dormant : Dormant selector stored) :
    selector.kind = .auto ∧
      selector.value = Recommender.recommend selector.policy selector.count := by
  obtain ⟨described, damaged⟩ := dormant
  rw [restored_of_damaged _ _ _ damaged] at described
  exact ⟨(congrArg Selector.kind described).symm, (congrArg Selector.value described).symm⟩

theorem Dormant.resize {selector : Selector P V} {stored : StoredChoice}
    (dormant : Dormant selector stored) {count : Nat} (still : ¬ selector.Follows count) :
    Dormant (selector.moved (.resize count)) (selector.leaves stored (.resize count)) := by
  have auto : selector.kind = .auto := dormant.unchosen.1
  obtain ⟨-, damaged⟩ := dormant
  have same : selector.leaves stored (.resize count) = stored := by
    simp [leaves, still]
  rw [same]
  refine ⟨?_, damaged⟩
  rw [restored_of_damaged _ _ _ damaged, moved_resize_of_auto auto]
  simp [auto]

/-- This is where a damaged pin comes back to life: the size is followed, and the flag stays. -/
theorem Dormant.follow {selector : Selector P V} {stored : StoredChoice}
    (dormant : Dormant selector stored) {count : Nat} (follows : selector.Follows count) :
    Revived (selector.moved (.resize count)) (selector.leaves stored (.resize count)) := by
  have flag : stored.flag = some "false" := dormant.2.1
  rw [moved_resize_of_auto follows.1]
  refine ⟨follows.1, rfl, ?_⟩
  simp [leaves, follows, flag]

theorem Revived.resize {selector : Selector P V} {stored : StoredChoice}
    (revived : Revived selector stored) (count : Nat) :
    Revived (selector.moved (.resize count)) (selector.leaves stored (.resize count)) := by
  obtain ⟨auto, -, texts⟩ := revived
  rw [moved_resize_of_auto auto]
  refine ⟨auto, rfl, ?_⟩
  by_cases same : Recommender.recommend selector.policy count = selector.value
  · simp [leaves, Follows, same, texts]
  · simp [leaves, Follows, auto, same, texts]

/-! ## Whole runs -/

theorem Kept.run [LawfulKeyed V] {selector : Selector P V} {stored : StoredChoice}
    (kept : Kept selector stored) (steps : List (SelectorStep V)) :
    Kept (selector.movedBy steps) (selector.leftBy stored steps) := by
  induction steps generalizing selector stored with
  | nil => exact kept
  | cons first rest ih =>
      apply ih
      cases first with
      | resize count => exact kept.resize count
      | pin value => exact kept_of_not_resize selector stored rfl
      | release => exact kept_of_not_resize selector stored rfl

theorem Revived.run [LawfulKeyed V] {selector : Selector P V} {stored : StoredChoice}
    (revived : Revived selector stored) (steps : List (SelectorStep V)) :
    if steps.all SelectorStep.isResize then
      Revived (selector.movedBy steps) (selector.leftBy stored steps)
    else Kept (selector.movedBy steps) (selector.leftBy stored steps) := by
  induction steps generalizing selector stored with
  | nil => exact revived
  | cons first rest ih =>
      cases first with
      | resize count => exact ih (revived.resize count)
      | pin value => exact (kept_of_not_resize selector stored rfl).run rest
      | release => exact (kept_of_not_resize selector stored rfl).run rest

/-- The steps only tell of sizes, and one of these changes the recommendation. -/
def FollowsWithin (policy : P) (count : Nat) (steps : List (SelectorStep V)) : Prop :=
  steps.all SelectorStep.isResize ∧
    ∃ size, .resize size ∈ steps ∧
      Recommender.recommend policy size ≠ Recommender.recommend policy count

omit [Keyed V] [DecidableEq V] in
theorem followsWithin_resize {policy : P} {count size : Nat} {rest : List (SelectorStep V)}
    (same : Recommender.recommend policy size = Recommender.recommend policy count) :
    FollowsWithin policy count (.resize size :: rest) ↔ FollowsWithin policy size rest := by
  simp only [FollowsWithin, List.all_cons, SelectorStep.isResize, Bool.true_and, List.mem_cons,
    SelectorStep.resize.injEq, same]
  constructor
  · rintro ⟨sizes, other, rfl | member, changes⟩
    · exact absurd same changes
    · exact ⟨sizes, other, member, changes⟩
  · rintro ⟨sizes, other, member, changes⟩
    exact ⟨sizes, other, .inr member, changes⟩

theorem Dormant.run [LawfulKeyed V] {selector : Selector P V} {stored : StoredChoice}
    (dormant : Dormant selector stored) (steps : List (SelectorStep V)) :
    (FollowsWithin selector.policy selector.count steps →
      Revived (selector.movedBy steps) (selector.leftBy stored steps)) ∧
    (¬ FollowsWithin selector.policy selector.count steps →
      Kept (selector.movedBy steps) (selector.leftBy stored steps) ∨
        Dormant (selector.movedBy steps) (selector.leftBy stored steps)) := by
  induction steps generalizing selector stored with
  | nil =>
      refine ⟨?_, fun _ => .inr dormant⟩
      rintro ⟨-, size, member, -⟩
      simp at member
  | cons first rest ih =>
      cases first with
      | resize count =>
          by_cases follows : selector.Follows count
          · have revived := (dormant.follow follows).run rest
            have changes : Recommender.recommend selector.policy count ≠
                Recommender.recommend selector.policy selector.count := by
              rw [← dormant.unchosen.2]
              exact follows.2
            by_cases sizes : rest.all SelectorStep.isResize
            · rw [if_pos sizes] at revived
              have within : FollowsWithin selector.policy selector.count
                  (.resize count :: rest) :=
                ⟨by simpa [SelectorStep.isResize] using sizes, count, by simp, changes⟩
              exact ⟨fun _ => revived, fun outside => absurd within outside⟩
            · rw [if_neg sizes] at revived
              refine ⟨?_, fun _ => .inl revived⟩
              rintro ⟨all, -⟩
              exact absurd (by simpa [SelectorStep.isResize] using all) sizes
          · have same : Recommender.recommend selector.policy count =
                Recommender.recommend selector.policy selector.count := by
              rw [← dormant.unchosen.2]
              exact Decidable.byContradiction fun changes =>
                follows ⟨dormant.unchosen.1, changes⟩
            rw [followsWithin_resize same]
            exact ih (dormant.resize follows)
      | pin value =>
          refine ⟨?_, fun _ => .inl ((kept_of_not_resize selector stored rfl).run rest)⟩
          rintro ⟨all, -⟩
          simp [SelectorStep.isResize] at all
      | release =>
          refine ⟨?_, fun _ => .inl ((kept_of_not_resize selector stored rfl).run rest)⟩
          rintro ⟨all, -⟩
          simp [SelectorStep.isResize] at all

/-! ## Closed and opened again -/

omit [DecidableEq V] in
theorem restored_of_revived [LawfulKeyed V] {selector : Selector P V} {stored : StoredChoice}
    (revived : Revived selector stored) :
    restored selector.policy selector.screen selector.count stored =
      { selector with kind := .pinned } := by
  obtain ⟨-, -, rfl⟩ := revived
  exact restored_of_pinned _ _ _ rfl (LawfulKeyed.ofKey?_key selector.value)

omit [Keyed V] in
theorem origin_movedBy (selector : Selector P V) (steps : List (SelectorStep V)) :
    (selector.movedBy steps).policy = selector.policy ∧
      (selector.movedBy steps).screen = selector.screen := by
  induction steps generalizing selector with
  | nil => exact ⟨rfl, rfl⟩
  | cons first rest ih =>
      have later := ih (selector.moved first)
      rw [policy_moved, screen_moved] at later
      exact later

/-- The restart on the two texts alone: what is restored from the texts that a run leaves. -/
theorem restored_leftBy [LawfulKeyed V] (policy : P) (screen : String) (count : Nat)
    (stored : StoredChoice) (steps : List (SelectorStep V)) :
    let opened : Selector P V := restored policy screen count stored
    let closed := opened.movedBy steps
    let reopened := restored policy screen closed.count (opened.leftBy stored steps)
    (¬ (stored.Damaged V ∧ FollowsWithin policy count steps) → reopened = closed) ∧
      (stored.Damaged V ∧ FollowsWithin policy count steps →
        closed.kind = .auto ∧ reopened = { closed with kind := .pinned }) := by
  intro opened closed reopened
  obtain ⟨policyKept, screenKept⟩ : closed.policy = policy ∧ closed.screen = screen :=
    origin_movedBy opened steps
  by_cases damaged : stored.Damaged V
  · have dormant : Dormant opened stored := ⟨rfl, damaged⟩
    obtain ⟨revives, settles⟩ := dormant.run steps
    constructor
    · intro intact
      have outside : ¬ FollowsWithin policy count steps := fun within => intact ⟨damaged, within⟩
      rcases settles outside with kept | dormant
      · have described := kept.1
        rwa [policyKept, screenKept] at described
      · have described := dormant.1
        rwa [policyKept, screenKept] at described
    · rintro ⟨-, within⟩
      have revived : Revived closed (opened.leftBy stored steps) := revives within
      refine ⟨revived.1, ?_⟩
      calc
        reopened = restored closed.policy closed.screen closed.count
            (opened.leftBy stored steps) := by rw [policyKept, screenKept]
        _ = { closed with kind := .pinned } := restored_of_revived revived
  · have kept : Kept opened stored := ⟨rfl, damaged⟩
    have described := (kept.run steps).1
    rw [policyKept, screenKept] at described
    exact ⟨fun _ => described, fun broken => absurd broken.1 damaged⟩

/-- After every run of a selector that nobody disturbs, opening it again gives it back, with one
exception: the store told of a pin of nothing when the selector was first opened, and since then a
size has been followed and the user has done nothing.  Then the automatic selector comes back
pinned to a choice that nobody made. -/
theorem reopened_eq_closed_iff [LawfulKeyed V] {σ : Type} [PreferenceStore σ] [WorkingStore σ]
    {store : σ} (works : Works store) (policy : P) (screen : String) (count : Nat)
    (steps : List (SelectorStep V)) :
    let opened : Selector P V × σ := ofStore policy store screen count
    let closed := opened.1.run opened.2 steps
    let reopened : Selector P V := (ofStore policy closed.2 screen closed.1.count).1
    let revives :=
      (storedChoice P store screen).Damaged V ∧ FollowsWithin policy count steps
    (reopened = closed.1 ↔ ¬ revives) ∧
      (revives → closed.1.kind = .auto ∧ reopened = { closed.1 with kind := .pinned }) := by
  intro opened closed reopened revives
  have start : opened.1 = restored policy screen count (storedChoice P store screen) :=
    ofStore_fst works policy screen count
  have untouched : storedChoice P opened.2 screen = storedChoice P store screen := by
    simp only [storedChoice, opened, content_ofStore works]
  obtain ⟨worksClosed, left⟩ :=
    storedChoice_run (works_ofStore works policy screen count) opened.1 steps
  have sameScreen : opened.1.screen = screen := rfl
  rw [sameScreen] at left
  have again : reopened = restored policy screen closed.1.count
      (opened.1.leftBy (storedChoice P store screen) steps) := by
    rw [← untouched, ← left]
    exact ofStore_fst worksClosed policy screen closed.1.count
  have ended : closed.1 = opened.1.movedBy steps := run_fst opened.1 opened.2 steps
  obtain ⟨intact, broken⟩ :=
    restored_leftBy policy screen count (storedChoice P store screen) steps
  rw [← start, ← ended, ← again] at intact broken
  refine ⟨⟨?_, intact⟩, broken⟩
  intro same now
  obtain ⟨auto, pinned⟩ := broken now
  rw [same] at pinned
  rw [pinned] at auto
  simp at auto

/-- A store that tells of a pin of a mode that does not exist. -/
def damagedStore : MemoryStore :=
  ⟨⟨[("accounts.view_mode", "carousel"), ("accounts.view_mode_auto", "false")]⟩, .new⟩

/-- The same damage, but the user has gone back to the recommendation since. -/
theorem reopened_after_repair :
    Works damagedStore ∧
      let opened : Selector ViewModePolicy ViewMode × MemoryStore :=
        ofStore .standard damagedStore "accounts" 20
      let closed := opened.1.run opened.2 [.resize 40, .release, .resize 60]
      (ofStore .standard closed.2 "accounts" closed.1.count).1 = closed.1 := by
  have works : Works damagedStore := trivial
  refine ⟨works, ?_⟩
  apply (reopened_eq_closed_iff works ViewModePolicy.standard "accounts" 20
    [.resize 40, .release, .resize 60]).1.mpr
  rintro ⟨-, all, -⟩
  simp [SelectorStep.isResize] at all

/-- Without that the automatic selector comes back pinned. -/
theorem damaged_pin_comes_back :
    let opened : Selector ViewModePolicy ViewMode × MemoryStore :=
      ofStore .standard damagedStore "accounts" 20
    let closed := opened.1.run opened.2 [.resize 40]
    let reopened : Selector ViewModePolicy ViewMode :=
      (ofStore .standard closed.2 "accounts" closed.1.count).1
    closed.1.kind = .auto ∧ reopened.kind = .pinned ∧ reopened.value = .grouped := by
  decide

end Selector

end AdaptiveView

import AdaptiveView.Proofs.Preference.Log

/-!
# Checking the version of stored preferences

A screen that finds another version beside its preferences removes them and writes the current one.  On a
store that works this touches the preferences it is given and the version, and nothing else; done again it
does nothing at all.

On a store that fails now and then the version can be written although a preference of the old version is
still there, which is taken for a current one from then on.  That is so exactly where the version could
not be read, or where each removal of the preference failed.
-/

set_option autoImplicit false

namespace AdaptiveView

/-! ## Keys of different screens -/

/-- The last dot of a key is the one between the screen and a preference without a dot. -/
theorem screenKey_inj_of_dotFree {screen other name preference : String}
    (dotFree : '.' ∉ name.toList) (dotFreeToo : '.' ∉ preference.toList)
    (same : screenKey screen name = screenKey other preference) : screen = other ∧ name = preference := by
  have texts : screen.toList ++ '.' :: name.toList = other.toList ++ '.' :: preference.toList := by
    simpa [screenKey] using congrArg String.toList same
  suffices screens : screen = other from ⟨screens, screenKey_inj.mp (screens ▸ same)⟩
  rcases List.append_eq_append_iff.mp texts with ⟨more, longer, rest⟩ | ⟨more, longer, rest⟩
  · cases more with
    | nil => exact (String.toList_inj.mp (by simpa using longer)).symm
    | cons first more =>
        obtain ⟨-, tail⟩ := List.cons.inj rest
        exact absurd (by simp [tail]) dotFree
  · cases more with
    | nil => exact String.toList_inj.mp (by simpa using longer)
    | cons first more =>
        obtain ⟨-, tail⟩ := List.cons.inj rest
        exact absurd (by simp [tail]) dotFreeToo

theorem dotFree_version : '.' ∉ "prefs_version".toList := by decide

theorem screenKey_ne_versionKey {name : String} {names : List String}
    (unversioned : "prefs_version" ∉ names) (listed : name ∈ names) (screen : String) :
    screenKey screen name ≠ versionKey screen := by
  intro same
  exact unversioned (screenKey_inj.mp same ▸ listed)

/-! ## On a store that works -/

section
variable {σ : Type} [PreferenceStore σ] [WorkingStore σ] {store : σ}

open WorkingStore

theorem upgradeScreen_fst (works : Works store) (screen : String) (names : List String) :
    (upgradeScreen store screen names).1 = decide (Outdated store screen) := by
  have value := value_read (versionKey screen) works
  simp only [upgradeScreen, value]
  by_cases current : content store (versionKey screen) = some preferenceVersion
  · simp [current, Outdated]
  · simp [current, Outdated]

/-- Where the version is the current one, it is looked at and nothing else is done. -/
theorem upgradeScreen_of_current (works : Works store) {screen : String}
    (current : content store (versionKey screen) = some preferenceVersion) (names : List String) :
    upgradeScreen store screen names =
      (false, (PreferenceStore.read store (versionKey screen)).2) := by
  have value := value_read (versionKey screen) works
  simp only [upgradeScreen, value, current, if_true]

/-- After the check the screen has the current version.  If it had another one, the preferences are gone;
everything else stays, and so does everything if it had none.  A second check does nothing. -/
theorem upgrade_removes_outdated_only (works : Works store) (screen : String) {names : List String}
    (dotFree : ∀ name ∈ names, '.' ∉ name.toList) (unversioned : "prefs_version" ∉ names) :
    let reset := (upgradeScreen store screen names).1
    let later := (upgradeScreen store screen names).2
    let again := upgradeScreen later screen names
    content later (versionKey screen) = some preferenceVersion ∧
      (reset = true ↔
        ∃ version, content store (versionKey screen) = some version ∧
          version ≠ preferenceVersion) ∧
      (∀ name ∈ names, content later (screenKey screen name) =
        if reset then none else content store (screenKey screen name)) ∧
      (∀ key, key ≠ versionKey screen → (∀ name ∈ names, key ≠ screenKey screen name) →
        content later key = content store key) ∧
      (∀ other name, other ≠ screen → '.' ∉ name.toList →
        content later (screenKey other name) = content store (screenKey other name)) ∧
      again.1 = false ∧ content again.2 = content later ∧
      PreferenceStore.feed again.2 = PreferenceStore.feed later := by
  intro reset later again
  have worksLater : Works later := works_upgradeScreen works screen names
  have told : reset = decide (Outdated store screen) := upgradeScreen_fst works screen names
  have contents : ∀ key, content later key = _ := content_upgradeScreen works screen names
  have current : content later (versionKey screen) = some preferenceVersion := by
    rw [contents, if_pos rfl]
  have unlisted : ∀ key, key ≠ versionKey screen → (∀ name ∈ names, key ≠ screenKey screen name) →
      content later key = content store key := by
    intro key notVersion elsewhere
    have absent : key ∉ names.map (screenKey screen) := by
      simpa [eq_comm] using elsewhere
    rw [contents, if_neg notVersion, if_neg (fun both => absent both.2)]
  have nothing : again = (false, (PreferenceStore.read later (versionKey screen)).2) :=
    upgradeScreen_of_current worksLater current names
  refine ⟨current, ?_, ?_, unlisted, ?_, ?_⟩
  · rw [told, decide_eq_true_iff, Outdated, Option.isSome_iff_exists]
    constructor
    · rintro ⟨⟨version, stored⟩, other⟩
      exact ⟨version, stored, fun same => other (same ▸ stored)⟩
    · rintro ⟨version, stored, other⟩
      refine ⟨⟨version, stored⟩, ?_⟩
      rw [stored]
      exact fun same => other (Option.some.inj same)
  · intro name listed
    have notVersion : screenKey screen name ≠ versionKey screen :=
      screenKey_ne_versionKey unversioned listed screen
    have among : screenKey screen name ∈ names.map (screenKey screen) :=
      List.mem_map_of_mem listed
    rw [contents, if_neg notVersion, told]
    by_cases outdated : Outdated store screen
    · rw [if_pos ⟨outdated, among⟩, if_pos (decide_eq_true outdated)]
    · rw [if_neg (fun both => outdated both.1), if_neg (by simpa using outdated)]
  · intro other name apart dotFreeName
    apply unlisted
    · intro same
      exact apart (screenKey_inj_of_dotFree dotFreeName dotFree_version same).1
    · intro listed among same
      exact apart (screenKey_inj_of_dotFree dotFreeName (dotFree listed among) same).1
  · rw [nothing]
    exact ⟨rfl, content_read _ worksLater, feed_read _ worksLater⟩

end

/-- Preferences of three screens, of which one has an older version. -/
def mixedStore : MemoryStore :=
  ⟨⟨[("team.accounts.prefs_version", "0"), ("team.accounts.view_mode", "grouped"),
    ("team.accounts.sort", "email"), ("accounts.view_mode", "flat"),
    ("team.prefs_version", "0")]⟩, .new⟩

theorem mixedStore_upgraded :
    let names := ["density", "view_mode", "density"]
    let later := (upgradeScreen mixedStore "team.accounts" names).2
    (upgradeScreen mixedStore "team.accounts" names).1 = true ∧
      later.content "team.accounts.prefs_version" = some "1" ∧
      later.content "team.accounts.view_mode" = none ∧
      later.content "team.accounts.sort" = some "email" ∧
      later.content "accounts.view_mode" = some "flat" ∧
      later.content "team.prefs_version" = some "0" ∧
      (upgradeScreen later "team.accounts" names).1 = false ∧
      (upgradeScreen later "team.accounts" names).2.feed = later.feed := by
  intro names later
  have works : WorkingStore.Works mixedStore := trivial
  have dotFree : ∀ name ∈ names, '.' ∉ name.toList := by decide
  obtain ⟨version, reset, listed, unlisted, others, again, -, silent⟩ :=
    upgrade_removes_outdated_only works "team.accounts" dotFree (by decide)
  have outdated : (upgradeScreen mixedStore "team.accounts" names).1 = true :=
    reset.mpr ⟨"0", by decide, by decide⟩
  refine ⟨outdated, version, ?_, ?_, ?_, ?_, again, silent⟩
  · have gone := listed "view_mode" (by decide)
    rw [if_pos outdated] at gone
    exact gone
  · exact unlisted "team.accounts.sort" (by decide) (by decide)
  · exact others "accounts" "view_mode" (by decide) (by decide)
  · exact others "team" "prefs_version" (by decide) (by decide)

/-! ## On a store that fails now and then -/

theorem StoreAnswer.ofOutcome_eq_done_iff {outcome : Except StoreError Unit} :
    ofOutcome outcome = .done ↔ outcome = .ok () := by
  cases outcome <;> simp [ofOutcome]

theorem StoreAnswer.ofOutcome_eq_failed_iff {outcome : Except StoreError Unit}
    {error : StoreError} : ofOutcome outcome = .failed error ↔ outcome = .error error := by
  cases outcome <;> simp [ofOutcome]

section
variable {σ : Type} [PreferenceStore σ]

/-- Each removal of this preference fails, in the state that the store is in by then. -/
def RemovalsFail (store : σ) (screen name : String) : List String → Prop
  | [] => True
  | next :: rest =>
      let removed := PreferenceStore.remove store (screenKey screen next)
      (next = name → removed.1 = .error .refused) ∧ RemovalsFail removed.2 screen name rest

variable {texts : σ → String → Option String}

namespace GrantsOrRefuses

theorem read (steps : GrantsOrRefuses texts) (store : σ) (key : String) :
    texts (PreferenceStore.read store key).2 = texts store ∧
      ((PreferenceStore.read store key).1 = texts store key ∨
        (PreferenceStore.read store key).1 = none) := by
  rcases steps store (.read key) with granted | refused
  · exact ⟨granted.effect, .inl (StoreAnswer.text.inj granted.answer)⟩
  · exact ⟨refused.effect, .inr (StoreAnswer.text.inj refused.answer)⟩

theorem write (steps : GrantsOrRefuses texts) (store : σ) (key value : String) :
    let written := PreferenceStore.write store key value
    (written.1 = .ok () ∧
        ∀ other, texts written.2 other = if other = key then some value else texts store other) ∨
      (written.1 = .error .refused ∧ texts written.2 = texts store) := by
  rcases steps store (.write key value) with granted | refused
  · exact .inl ⟨StoreAnswer.ofOutcome_eq_done_iff.mp granted.answer, congrFun granted.effect⟩
  · exact .inr ⟨StoreAnswer.ofOutcome_eq_failed_iff.mp refused.answer, refused.effect⟩

theorem remove (steps : GrantsOrRefuses texts) (store : σ) (key : String) :
    let removed := PreferenceStore.remove store key
    (removed.1 = .ok () ∧
        ∀ other, texts removed.2 other = if other = key then none else texts store other) ∨
      (removed.1 = .error .refused ∧ texts removed.2 = texts store) := by
  rcases steps store (.remove key) with granted | refused
  · exact .inl ⟨StoreAnswer.ofOutcome_eq_done_iff.mp granted.answer, congrFun granted.effect⟩
  · exact .inr ⟨StoreAnswer.ofOutcome_eq_failed_iff.mp refused.answer, refused.effect⟩

/-- A preference is still there after one removal if it is another that was removed, or none. -/
theorem text_remove_eq_some_iff (steps : GrantsOrRefuses texts) (store : σ)
    (screen next name value : String) :
    let removed := PreferenceStore.remove store (screenKey screen next)
    texts removed.2 (screenKey screen name) = some value ↔
      texts store (screenKey screen name) = some value ∧
        (next = name → removed.1 = .error .refused) := by
  intro removed
  rcases steps.remove store (screenKey screen next) with ⟨done, left⟩ | ⟨failed, left⟩
  · by_cases here : next = name
    · subst here
      simp [removed, left, done]
    · have elsewhere : screenKey screen name ≠ screenKey screen next :=
        fun same => here (screenKey_inj.mp same).symm
      simp [removed, left, elsewhere, here]
  · rw [left]
    exact ⟨fun stored => ⟨stored, fun _ => failed⟩, And.left⟩

theorem text_forgetScreen_eq_some_iff (steps : GrantsOrRefuses texts) (store : σ)
    (screen name value : String) (names : List String) :
    texts (forgetScreen store screen names) (screenKey screen name) = some value ↔
      texts store (screenKey screen name) = some value ∧
        RemovalsFail store screen name names := by
  induction names generalizing store with
  | nil => simp [forgetScreen, RemovalsFail]
  | cons next rest later =>
      have further := later (PreferenceStore.remove store (screenKey screen next)).2
      rw [RemovalsFail, ← and_assoc]
      exact further.trans (and_congr_left' (steps.text_remove_eq_some_iff store screen next name value))

theorem text_forgetScreen_of_not_mem (steps : GrantsOrRefuses texts) (store : σ)
    (screen : String) {name : String} {names : List String} (unlisted : name ∉ names) :
    texts (forgetScreen store screen names) (screenKey screen name) =
      texts store (screenKey screen name) := by
  have never : RemovalsFail store screen name names := by
    induction names generalizing store with
    | nil => trivial
    | cons next rest later =>
        rw [List.mem_cons, not_or] at unlisted
        exact ⟨fun same => absurd same.symm unlisted.1, later _ unlisted.2⟩
  apply Option.ext
  intro value
  rw [steps.text_forgetScreen_eq_some_iff]
  exact and_iff_left never

/-- Where another version stands, the current one stands there after a write exactly if that took effect;
preferences are not touched. -/
theorem text_stamped (steps : GrantsOrRefuses texts) {store : σ} {screen version : String}
    (stored : texts store (versionKey screen) = some version)
    (outdated : version ≠ preferenceVersion) :
    let later := save store (versionKey screen) preferenceVersion
    (texts later (versionKey screen) = some preferenceVersion ↔
        (PreferenceStore.write store (versionKey screen) preferenceVersion).1 = .ok ()) ∧
      ∀ key, key ≠ versionKey screen → texts later key = texts store key := by
  intro later
  rcases steps.write store (versionKey screen) preferenceVersion with
    ⟨done, left⟩ | ⟨failed, left⟩
  · refine ⟨?_, ?_⟩
    · simp [later, save, left, done]
    · intro key elsewhere
      exact (left key).trans (if_neg elsewhere)
  · refine ⟨?_, fun key _ => congrFun left key⟩
    simp [later, save, left, failed, stored, outdated]

end GrantsOrRefuses

theorem upgradeScreen_of_none {store : σ} {screen : String}
    (missed : (PreferenceStore.read store (versionKey screen)).1 = none) (names : List String) :
    upgradeScreen store screen names =
      (false, save (PreferenceStore.read store (versionKey screen)).2 (versionKey screen)
        preferenceVersion) := by
  simp [upgradeScreen, missed]

theorem upgradeScreen_of_outdated {store : σ} {screen version : String}
    (found : (PreferenceStore.read store (versionKey screen)).1 = some version)
    (outdated : version ≠ preferenceVersion) (names : List String) :
    upgradeScreen store screen names =
      (true, save (forgetScreen (PreferenceStore.read store (versionKey screen)).2 screen names)
        (versionKey screen) preferenceVersion) := by
  simp [upgradeScreen, found, outdated]

namespace GrantsOrRefuses

variable {store : σ} {screen version : String}

/-- Where the version could not be read, nothing is removed. -/
theorem text_upgradeScreen_of_missed (steps : GrantsOrRefuses texts)
    (stored : texts store (versionKey screen) = some version)
    (outdated : version ≠ preferenceVersion)
    (missed : (PreferenceStore.read store (versionKey screen)).1 = none) (names : List String) :
    let later := (upgradeScreen store screen names).2
    let checked := (PreferenceStore.read store (versionKey screen)).2
    (texts later (versionKey screen) = some preferenceVersion ↔
        (PreferenceStore.write checked (versionKey screen) preferenceVersion).1 = .ok ()) ∧
      ∀ key, key ≠ versionKey screen → texts later key = texts store key := by
  intro later checked
  have unchanged : texts checked = texts store := (steps.read store (versionKey screen)).1
  have next : later = save checked (versionKey screen) preferenceVersion :=
    congrArg Prod.snd (upgradeScreen_of_none missed names)
  have storedStill : texts checked (versionKey screen) = some version := by
    rw [unchanged, stored]
  rw [next, ← unchanged]
  exact steps.text_stamped storedStill outdated

/-- Where another version was read, a preference is still there if each removal of it failed. -/
theorem text_upgradeScreen_of_found (steps : GrantsOrRefuses texts) {names : List String}
    (unversioned : "prefs_version" ∉ names)
    (stored : texts store (versionKey screen) = some version)
    (outdated : version ≠ preferenceVersion)
    (found : (PreferenceStore.read store (versionKey screen)).1 = some version) :
    let later := (upgradeScreen store screen names).2
    let checked := (PreferenceStore.read store (versionKey screen)).2
    let swept := forgetScreen checked screen names
    (texts later (versionKey screen) = some preferenceVersion ↔
        (PreferenceStore.write swept (versionKey screen) preferenceVersion).1 = .ok ()) ∧
      ∀ name ∈ names, ∀ value, texts later (screenKey screen name) = some value ↔
        texts store (screenKey screen name) = some value ∧
          RemovalsFail checked screen name names := by
  intro later checked swept
  have unchanged : texts checked = texts store := (steps.read store (versionKey screen)).1
  have next : later = save swept (versionKey screen) preferenceVersion :=
    congrArg Prod.snd (upgradeScreen_of_outdated found outdated names)
  have sweptVersion : texts swept (versionKey screen) = some version :=
    calc texts swept (versionKey screen)
      _ = texts checked (versionKey screen) :=
        steps.text_forgetScreen_of_not_mem checked screen unversioned
      _ = texts store (versionKey screen) := congrFun unchanged _
      _ = some version := stored
  obtain ⟨stamped, others⟩ := steps.text_stamped sweptVersion outdated
  rw [next]
  refine ⟨stamped, ?_⟩
  intro name listed value
  rw [others _ (screenKey_ne_versionKey unversioned listed screen),
    steps.text_forgetScreen_eq_some_iff, unchanged]

end GrantsOrRefuses

/-- A preference that was stored under another version still stands beside the current version after the
check exactly if the current version could be written, and either the other one could not be read or each
removal of the preference failed. -/
theorem outdated_value_under_current_version_iff (steps : GrantsOrRefuses texts) (store : σ)
    {screen version : String} {names : List String} (unversioned : "prefs_version" ∉ names)
    (stored : texts store (versionKey screen) = some version)
    (outdated : version ≠ preferenceVersion) :
    let later := (upgradeScreen store screen names).2
    let checked := PreferenceStore.read store (versionKey screen)
    let swept := forgetScreen checked.2 screen names
    (texts later (versionKey screen) = some preferenceVersion ∧
        ∃ name ∈ names, ∃ value, texts store (screenKey screen name) = some value ∧
          texts later (screenKey screen name) = some value) ↔
      ∃ name ∈ names, (texts store (screenKey screen name)).isSome ∧
        (checked.1 = none ∧
            (PreferenceStore.write checked.2 (versionKey screen) preferenceVersion).1 = .ok () ∨
          checked.1 = some version ∧ RemovalsFail checked.2 screen name names ∧
            (PreferenceStore.write swept (versionKey screen) preferenceVersion).1 = .ok ()) := by
  intro later checked swept
  obtain ⟨-, read | missed⟩ := steps.read store (versionKey screen)
  · have found : checked.1 = some version := read.trans stored
    obtain ⟨stamped, kept⟩ :=
      steps.text_upgradeScreen_of_found unversioned stored outdated found
    rw [stamped]
    constructor
    · rintro ⟨written, name, listed, value, before, after⟩
      have failed := ((kept name listed value).mp after).2
      exact ⟨name, listed, Option.isSome_of_eq_some before, .inr ⟨found, failed, written⟩⟩
    · rintro ⟨name, listed, present, ⟨missed, -⟩ | ⟨-, failed, written⟩⟩
      · rw [found] at missed
        cases missed
      · obtain ⟨value, before⟩ := Option.isSome_iff_exists.mp present
        exact ⟨written, name, listed, value, before, (kept name listed value).mpr ⟨before, failed⟩⟩
  · obtain ⟨stamped, others⟩ := steps.text_upgradeScreen_of_missed stored outdated missed names
    rw [stamped]
    constructor
    · rintro ⟨written, name, listed, value, before, -⟩
      exact ⟨name, listed, Option.isSome_of_eq_some before, .inl ⟨missed, written⟩⟩
    · rintro ⟨name, listed, present, ⟨-, written⟩ | ⟨found, -⟩⟩
      · obtain ⟨value, before⟩ := Option.isSome_iff_exists.mp present
        have apart := screenKey_ne_versionKey unversioned listed screen
        exact ⟨written, name, listed, value, before, (others _ apart).trans before⟩
      · have absent : checked.1 = none := missed
        rw [absent] at found
        cases found

end

/-- A database with preferences of an older version, of which the statement with this number fails. -/
def olderDatabase (failing : Nat) : Database :=
  { Database.new with
    table := some ⟨[("accounts.prefs_version", "0"), ("accounts.view_mode", "grouped"),
      ("accounts.density", "compact")]⟩
    fails := fun number => number == failing }

/-- The second statement is the removal of the density, which stays under the current version. -/
theorem outdated_density_under_current_version :
    let names := ["density", "view_mode"]
    let later := (upgradeScreen (olderDatabase 1) "accounts" names).2
    later.content "accounts.prefs_version" = some "1" ∧
      ∃ name ∈ names, ∃ value,
        (olderDatabase 1).content (screenKey "accounts" name) = some value ∧
          later.content (screenKey "accounts" name) = some value := by
  intro names later
  have unversioned : "prefs_version" ∉ names := by decide
  have stored : (olderDatabase 1).content (versionKey "accounts") = some "0" := by decide
  have failed : RemovalsFail
      (PreferenceStore.read (olderDatabase 1) (versionKey "accounts")).2 "accounts" "density"
      names :=
    ⟨fun _ => rfl, fun other => absurd other (by decide), trivial⟩
  exact (outdated_value_under_current_version_iff Database.grantsOrRefuses (olderDatabase 1)
    unversioned stored (by decide)).mpr
      ⟨"density", by decide, by decide, .inr ⟨by decide, failed, rfl⟩⟩

/-- One removal fails and the version is written nevertheless.  The check says that the preferences were
removed, and another one leaves the old view mode where it is. -/
theorem outdated_view_mode_taken_for_current :
    let checked := upgradeScreen (olderDatabase 1) "accounts" ["view_mode", "density"]
    let again := upgradeScreen checked.2 "accounts" ["view_mode", "density"]
    (olderDatabase 1).content "accounts.prefs_version" = some "0" ∧
      (olderDatabase 1).content "accounts.view_mode" = some "grouped" ∧
      checked.1 = true ∧ checked.2.content "accounts.prefs_version" = some "1" ∧
      checked.2.content "accounts.view_mode" = some "grouped" ∧
      checked.2.content "accounts.density" = none ∧
      again.1 = false ∧ again.2.content "accounts.view_mode" = some "grouped" := by
  decide

end AdaptiveView

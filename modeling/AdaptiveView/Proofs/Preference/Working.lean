import AdaptiveView.Preference.Database
import AdaptiveView.Preference.Memory

/-!
# Stores that work

A store works as long as every operation on it takes effect and is reported.  Such a store is a map
from keys to texts, and what a screen does to it can be said on that map alone.  The store in memory
always works; a database works while it has its table and no later statement fails.

Nothing here is claimed about a store that fails.
-/

set_option autoImplicit false

namespace AdaptiveView

/-- Stores with states from which on every operation takes effect and is reported. -/
class WorkingStore (σ : Type) [PreferenceStore σ] where
  /-- From this state on nothing fails. -/
  Works : σ → Prop
  /-- The text under a key. -/
  content : σ → String → Option String
  works_read {store : σ} (key : String) :
    Works store → Works (PreferenceStore.read store key).2
  value_read {store : σ} (key : String) :
    Works store → (PreferenceStore.read store key).1 = content store key
  content_read {store : σ} (key : String) :
    Works store → content (PreferenceStore.read store key).2 = content store
  feed_read {store : σ} (key : String) : Works store →
    PreferenceStore.feed (PreferenceStore.read store key).2 = PreferenceStore.feed store
  works_write {store : σ} (key value : String) :
    Works store → Works (PreferenceStore.write store key value).2
  content_write {store : σ} (key value other : String) : Works store →
    content (PreferenceStore.write store key value).2 other =
      if other = key then some value else content store other
  feed_write {store : σ} (key value : String) : Works store →
    PreferenceStore.feed (PreferenceStore.write store key value).2 =
      (PreferenceStore.feed store).report key (some value)
  works_remove {store : σ} (key : String) :
    Works store → Works (PreferenceStore.remove store key).2
  content_remove {store : σ} (key other : String) : Works store →
    content (PreferenceStore.remove store key).2 other =
      if other = key then none else content store other
  feed_remove {store : σ} (key : String) : Works store →
    PreferenceStore.feed (PreferenceStore.remove store key).2 =
      if (content store key).isSome then (PreferenceStore.feed store).report key none
      else PreferenceStore.feed store

instance : WorkingStore MemoryStore where
  Works _ := True
  content store := store.entries.get?
  works_read _ _ := trivial
  value_read _ _ := rfl
  content_read _ _ := rfl
  feed_read _ _ := rfl
  works_write _ _ _ := trivial
  content_write key value other _ := MemoryStore.read_write _ key value other
  feed_write _ _ _ := rfl
  works_remove _ _ := trivial
  content_remove key other _ := MemoryStore.read_remove _ key other
  feed_remove {store} key _ := by
    cases stored : store.entries.get? key <;>
      simp [PreferenceStore.feed, PreferenceStore.remove, stored]

namespace Database

/-- It has its table, and no statement from now on fails for a reason of its own. -/
def Sound (db : Database) : Prop :=
  db.table.isSome ∧ ∀ number, db.statements ≤ number → db.fails number = false

/-- The text in the row of a key. -/
def content (db : Database) (key : String) : Option String :=
  db.table.bind (·.get? key)

/-- A sound database answers a statement from its rows and stays sound. -/
theorem statement_of_sound {db : Database} (sound : db.Sound) :
    ∃ rows, db.table = some rows ∧
      db.statement = (.ok rows, { db with statements := db.statements + 1 }) := by
  obtain ⟨present, quiet⟩ := sound
  obtain ⟨rows, table⟩ := Option.isSome_iff_exists.mp present
  refine ⟨rows, table, ?_⟩
  simp [statement, quiet db.statements (Nat.le_refl _), table]

theorem sound_next {db : Database} (sound : db.Sound) (rows : Entries) (feed : ChangeFeed) :
    Sound { db with statements := db.statements + 1, table := some rows, feed } := by
  refine ⟨rfl, ?_⟩
  intro number later
  exact sound.2 number (Nat.le_of_succ_le later)

end Database

instance : WorkingStore Database where
  Works := Database.Sound
  content := Database.content
  works_read {db} key sound := by
    obtain ⟨rows, table, answer⟩ := Database.statement_of_sound sound
    have next := Database.sound_next sound rows db.feed
    simpa [PreferenceStore.read, Database.select, answer, ← table] using next
  value_read {db} key sound := by
    obtain ⟨rows, table, answer⟩ := Database.statement_of_sound sound
    simp [PreferenceStore.read, Database.select, answer, Database.content, table]
  content_read {db} key sound := by
    obtain ⟨rows, table, answer⟩ := Database.statement_of_sound sound
    funext other
    simp [PreferenceStore.read, Database.select, answer, Database.content]
  feed_read {db} key sound := by
    obtain ⟨rows, table, answer⟩ := Database.statement_of_sound sound
    simp [PreferenceStore.read, PreferenceStore.feed, Database.select, answer]
  works_write {db} key value sound := by
    obtain ⟨rows, table, answer⟩ := Database.statement_of_sound sound
    simpa [PreferenceStore.write, Database.upsert, answer] using
      Database.sound_next sound (rows.insert key value) (db.feed.report key (some value))
  content_write {db} key value other sound := by
    obtain ⟨rows, table, answer⟩ := Database.statement_of_sound sound
    simp [PreferenceStore.write, Database.upsert, answer, Database.content, table]
  feed_write {db} key value sound := by
    obtain ⟨rows, table, answer⟩ := Database.statement_of_sound sound
    simp [PreferenceStore.write, PreferenceStore.feed, Database.upsert, answer]
  works_remove {db} key sound := by
    obtain ⟨rows, table, answer⟩ := Database.statement_of_sound sound
    have next := Database.sound_next sound (rows.erase key)
    cases stored : rows.get? key with
    | none =>
        simpa [PreferenceStore.remove, Database.delete, answer, stored] using next db.feed
    | some value =>
        simpa [PreferenceStore.remove, Database.delete, answer, stored] using
          next (db.feed.report key none)
  content_remove {db} key other sound := by
    obtain ⟨rows, table, answer⟩ := Database.statement_of_sound sound
    cases stored : rows.get? key <;>
      simp [PreferenceStore.remove, Database.delete, answer, Database.content, table, stored]
  feed_remove {db} key sound := by
    obtain ⟨rows, table, answer⟩ := Database.statement_of_sound sound
    cases stored : rows.get? key <;>
      simp [PreferenceStore.remove, PreferenceStore.feed, Database.delete, answer,
        Database.content, table, stored]

/-! ## Keys -/

theorem screenKey_inj {screen name other : String} :
    screenKey screen name = screenKey screen other ↔ name = other := by
  simp [screenKey, String.append_right_inj]

/-! ## What a screen does to a working store -/

section
variable {σ : Type} [PreferenceStore σ] [WorkingStore σ]

open WorkingStore

theorem works_save {store : σ} (works : Works store) (key value : String) :
    Works (save store key value) :=
  works_write key value works

theorem content_save {store : σ} (works : Works store) (key value other : String) :
    content (save store key value) other =
      if other = key then some value else content store other :=
  content_write key value other works

theorem works_forgetScreen {store : σ} (works : Works store) (screen : String)
    (names : List String) : Works (forgetScreen store screen names) := by
  unfold forgetScreen
  induction names generalizing store with
  | nil => exact works
  | cons name rest ih => exact ih (works_remove _ works)

theorem content_forgetScreen {store : σ} (works : Works store) (screen : String)
    (names : List String) (other : String) :
    content (forgetScreen store screen names) other =
      if other ∈ names.map (screenKey screen) then none else content store other := by
  unfold forgetScreen
  induction names generalizing store with
  | nil => simp
  | cons name rest ih =>
      rw [List.foldl_cons, ih (works_remove _ works), content_remove _ _ works]
      by_cases here : other = screenKey screen name
      · simp [here]
      · simp [here]

/-- The store has a version of a screen's preferences, and it is not the current one. -/
def Outdated (store : σ) (screen : String) : Prop :=
  (content store (versionKey screen)).isSome ∧
    content store (versionKey screen) ≠ some preferenceVersion

instance (store : σ) (screen : String) : Decidable (Outdated store screen) :=
  inferInstanceAs (Decidable (_ ∧ _))

theorem upgradeScreen_snd {store : σ} (works : Works store) (screen : String)
    (names : List String) :
    (upgradeScreen store screen names).2 =
      let checked := (PreferenceStore.read store (versionKey screen)).2
      if content store (versionKey screen) = some preferenceVersion then checked
      else
        save (if Outdated store screen then forgetScreen checked screen names else checked)
          (versionKey screen) preferenceVersion := by
  have value := value_read (versionKey screen) works
  simp only [upgradeScreen, value]
  by_cases current : content store (versionKey screen) = some preferenceVersion
  · simp only [current, if_true]
  · simp only [current, if_false, Outdated, ne_eq, not_false_eq_true, and_true]

theorem works_upgradeScreen {store : σ} (works : Works store) (screen : String)
    (names : List String) : Works (upgradeScreen store screen names).2 := by
  have checked := works_read (versionKey screen) works
  rw [upgradeScreen_snd works]
  dsimp only
  split
  · exact checked
  · apply works_save
    split
    · exact works_forgetScreen checked screen names
    · exact checked

/-- After the check of its version a screen has the current one, and its preferences are gone only
if they had another. -/
theorem content_upgradeScreen {store : σ} (works : Works store) (screen : String)
    (names : List String) (other : String) :
    content (upgradeScreen store screen names).2 other =
      if other = versionKey screen then some preferenceVersion
      else if Outdated store screen ∧ other ∈ names.map (screenKey screen) then none
      else content store other := by
  have checked := works_read (versionKey screen) works
  have same := content_read (versionKey screen) works
  rw [upgradeScreen_snd works]
  dsimp only
  by_cases current : content store (versionKey screen) = some preferenceVersion
  · have recent : ¬ Outdated store screen := fun outdated => outdated.2 current
    rw [if_pos current, same]
    by_cases here : other = versionKey screen
    · simp [here, current]
    · simp [here, recent]
  · rw [if_neg current]
    by_cases outdated : Outdated store screen
    · rw [if_pos outdated, content_save (works_forgetScreen checked screen names),
        content_forgetScreen checked, same]
      simp only [outdated, true_and]
    · rw [if_neg outdated, content_save checked, same]
      simp only [outdated, false_and, if_false]

end

end AdaptiveView

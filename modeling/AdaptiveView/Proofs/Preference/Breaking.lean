import AdaptiveView.Proofs.Preference.Agreement

/-!
# Stores that break

A store that is going to break answers so many more accesses as a store that works does.  From then on
it reads nothing, keeps nothing and reports nothing.  It may break between any two accesses, so also in
the middle of what a screen does with one message.

A database breaks when its statements fail from some number on, or when it loses its table.
-/

set_option autoImplicit false

namespace AdaptiveView

open WorkingStore

/-- Stores with states from which so many accesses take effect, and none after them. -/
class BreakingStore (τ : Type) [PreferenceStore τ] where
  Lasts : Nat → τ → Prop
  /-- The text under a key, as long as accesses take effect. -/
  text : τ → String → Option String
  lasts_access {left : Nat} {store : τ} (access : StoreAccess) :
    Lasts (left + 1) store → Lasts left (access.on store)
  text_access {left : Nat} {store : τ} (access : StoreAccess) (key : String) :
    Lasts (left + 1) store → text (access.on store) key = access.leaves key (text store key)
  reported_access {left : Nat} {store : τ} (access : StoreAccess) : Lasts (left + 1) store →
    reported (access.on store) = reported store ++ access.reports (text store access.key)
  value_read {left : Nat} {store : τ} (key : String) :
    Lasts (left + 1) store → (PreferenceStore.read store key).1 = text store key
  broken_access {store : τ} (access : StoreAccess) :
    Lasts 0 store → Lasts 0 (access.on store)
  reported_of_broken {store : τ} (access : StoreAccess) :
    Lasts 0 store → reported (access.on store) = reported store
  read_of_broken {store : τ} (key : String) :
    Lasts 0 store → (PreferenceStore.read store key).1 = none

namespace Database

/-- So many more statements succeed; after them each fails for a reason of its own, or there is no
table. -/
structure Breaks (left : Nat) (db : Database) : Prop where
  present : 0 < left → db.table.isSome
  quiet : ∀ number, db.statements ≤ number → number < db.statements + left →
    db.fails number = false
  broken : db.table = none ∨ ∀ number, db.statements + left ≤ number → db.fails number = true

theorem statement_of_breaks {db : Database} {left : Nat} (breaks : db.Breaks (left + 1)) :
    ∃ rows, db.table = some rows ∧
      db.statement = (.ok rows, { db with statements := db.statements + 1 }) := by
  obtain ⟨rows, table⟩ := Option.isSome_iff_exists.mp (breaks.present (Nat.succ_pos left))
  have succeeds : db.fails db.statements = false :=
    breaks.quiet db.statements (Nat.le_refl _) (by omega)
  refine ⟨rows, table, ?_⟩
  simp [statement, succeeds, table]

theorem statement_of_broken {db : Database} (broken : db.Breaks 0) :
    db.statement = (.error .refused, { db with statements := db.statements + 1 }) := by
  rcases broken.broken with absent | refused
  · simp [statement, absent]
  · have fails : db.fails db.statements = true := refused db.statements (Nat.le_refl _)
    simp [statement, fails]

theorem Breaks.next {db : Database} {left : Nat} (breaks : db.Breaks (left + 1)) (rows : Entries)
    (feed : ChangeFeed) :
    Breaks left { db with statements := db.statements + 1, table := some rows, feed } := by
  refine ⟨fun _ => rfl, ?_, .inr ?_⟩
  · intro number late early
    apply breaks.quiet number
    · exact Nat.le_of_succ_le late
    · simp only at early
      omega
  · intro number late
    rcases breaks.broken with absent | refused
    · have table := breaks.present (Nat.succ_pos left)
      simp [absent] at table
    · apply refused number
      simp only at late
      omega

theorem Breaks.still {db : Database} (broken : db.Breaks 0) :
    Breaks 0 { db with statements := db.statements + 1 } := by
  refine ⟨fun positive => absurd positive (Nat.lt_irrefl 0), ?_, ?_⟩
  · intro number late early
    exact absurd early (Nat.not_lt.mpr late)
  · rcases broken.broken with absent | refused
    · exact .inl absent
    · right
      intro number late
      exact refused number (Nat.le_of_succ_le late)

/-- What an access makes of a database that still answers. -/
theorem on_of_statement {db : Database} {rows : Entries}
    (answer : db.statement = (.ok rows, { db with statements := db.statements + 1 }))
    (table : db.table = some rows) (access : StoreAccess) :
    ∃ later feed, access.on db =
        { db with statements := db.statements + 1, table := some later, feed } ∧
      (∀ key, later.get? key = access.leaves key (rows.get? key)) ∧
      feed.changes.toList = db.feed.changes.toList ++ access.reports (rows.get? access.key) := by
  cases access with
  | read key =>
      refine ⟨rows, db.feed, ?_, fun _ => rfl, ?_⟩
      · simp [StoreAccess.on, PreferenceStore.read, select, answer, table]
      · simp [StoreAccess.reports]
  | write key value =>
      refine ⟨rows.insert key value, db.feed.report key (some value), ?_, ?_, ?_⟩
      · simp [StoreAccess.on, PreferenceStore.write, upsert, answer]
      · intro other
        simp [StoreAccess.leaves, Entries.get?_insert]
      · simp [StoreAccess.reports, ChangeFeed.report]
  | remove key =>
      cases stored : rows.get? key with
      | none =>
          refine ⟨rows.erase key, db.feed, ?_, ?_, ?_⟩
          · simp [StoreAccess.on, PreferenceStore.remove, delete, answer, stored]
          · intro other
            simp [StoreAccess.leaves, Entries.get?_erase]
          · simp [StoreAccess.reports, StoreAccess.key, stored]
      | some value =>
          refine ⟨rows.erase key, db.feed.report key none, ?_, ?_, ?_⟩
          · simp [StoreAccess.on, PreferenceStore.remove, delete, answer, stored]
          · intro other
            simp [StoreAccess.leaves, Entries.get?_erase]
          · simp [StoreAccess.reports, StoreAccess.key, stored, ChangeFeed.report]

theorem on_of_refused {db : Database}
    (answer : db.statement = (.error .refused, { db with statements := db.statements + 1 }))
    (access : StoreAccess) : access.on db = { db with statements := db.statements + 1 } := by
  cases access with
  | read key => simp [StoreAccess.on, PreferenceStore.read, select, answer]
  | write key value => simp [StoreAccess.on, PreferenceStore.write, upsert, answer]
  | remove key => simp [StoreAccess.on, PreferenceStore.remove, delete, answer]

theorem on_of_broken {db : Database} (broken : db.Breaks 0) (access : StoreAccess) :
    access.on db = { db with statements := db.statements + 1 } :=
  on_of_refused (statement_of_broken broken) access

end Database

instance : BreakingStore Database where
  Lasts left db := db.Breaks left
  text := Database.content
  lasts_access access breaks := by
    obtain ⟨rows, table, answer⟩ := Database.statement_of_breaks breaks
    obtain ⟨later, feed, here, -, -⟩ := Database.on_of_statement answer table access
    rw [here]
    exact breaks.next later feed
  text_access access key breaks := by
    obtain ⟨rows, table, answer⟩ := Database.statement_of_breaks breaks
    obtain ⟨later, feed, here, texts, -⟩ := Database.on_of_statement answer table access
    simp [here, Database.content, table, texts]
  reported_access access breaks := by
    obtain ⟨rows, table, answer⟩ := Database.statement_of_breaks breaks
    obtain ⟨later, feed, here, -, told⟩ := Database.on_of_statement answer table access
    simp [here, reported, PreferenceStore.feed, Database.content, table, told]
  value_read {left store} key breaks := by
    obtain ⟨rows, table, answer⟩ := Database.statement_of_breaks breaks
    simp [PreferenceStore.read, Database.select, answer, Database.content, table]
  broken_access access broken := by
    rw [Database.on_of_broken broken access]
    exact broken.still
  reported_of_broken access broken := by
    rw [Database.on_of_broken broken access]
    rfl
  read_of_broken key broken := by
    simp [PreferenceStore.read, Database.select, Database.statement_of_broken broken]

/-! ## Beside a store that works -/

open BreakingStore

/-- A store that works, and one that answers so many more accesses as it does and then breaks. -/
structure Shadows {σ τ : Type} [PreferenceStore σ] [WorkingStore σ] [PreferenceStore τ]
    [BreakingStore τ] (left : Nat) (store : σ) (other : τ) : Prop where
  works : Works store
  lasts : Lasts left other
  texts : 0 < left → text other = content store
  alike : 0 < left → reported other = reported store
  reports : reported other <+: reported store

section
variable {σ τ : Type} [PreferenceStore σ] [WorkingStore σ] [PreferenceStore τ] [BreakingStore τ]
  {store : σ} {other : τ} {left : Nat}

theorem Shadows.access (shadows : Shadows left store other) (access : StoreAccess) :
    Shadows (left - 1) (access.on store) (access.on other) := by
  obtain ⟨works, lasts, texts, alike, reports⟩ := shadows
  have grown : reported store <+: reported (access.on store) := (tells_access works access).grown
  cases left with
  | zero =>
      refine ⟨works_access works access, broken_access access lasts, ?_, ?_, ?_⟩
      · intro positive
        exact absurd positive (Nat.lt_irrefl 0)
      · intro positive
        exact absurd positive (Nat.lt_irrefl 0)
      · rw [reported_of_broken access lasts]
        exact reports.trans grown
  | succ left =>
      have texts := texts (Nat.succ_pos left)
      have alike := alike (Nat.succ_pos left)
      have same : reported (access.on other) = reported (access.on store) := by
        rw [BreakingStore.reported_access access lasts, AdaptiveView.reported_access works, texts,
          alike]
      refine ⟨works_access works access, lasts_access access lasts, ?_, fun _ => same, ?_⟩
      · intro _
        funext key
        rw [text_access access key lasts, content_access works, texts]
      · simp only [same, List.prefix_refl]

theorem Shadows.accessed (shadows : Shadows left store other) (accesses : List StoreAccess) :
    Shadows (left - accesses.length) (accessed store accesses) (accessed other accesses) := by
  induction accesses generalizing left store other with
  | nil => exact shadows
  | cons access rest later =>
      have further := later (shadows.access access)
      rw [Nat.sub_sub, Nat.add_comm 1] at further
      exact further

/-- What is done to the working store alone, once the other has broken. -/
theorem Shadows.alone (shadows : Shadows 0 store other) (accesses : List StoreAccess) :
    Shadows 0 (AdaptiveView.accessed store accesses) other := by
  obtain ⟨works, tells⟩ := tells_accessed shadows.works accesses
  refine ⟨works, shadows.lasts, ?_, ?_, shadows.reports.trans tells.grown⟩
  · intro positive
    exact absurd positive (Nat.lt_irrefl 0)
  · intro positive
    exact absurd positive (Nat.lt_irrefl 0)

theorem Shadows.read (shadows : Shadows left store other) (key : String) :
    (PreferenceStore.read other key).1 =
      if 0 < left then (PreferenceStore.read store key).1 else none := by
  cases left with
  | zero => exact read_of_broken key shadows.lasts
  | succ left =>
      rw [if_pos (Nat.succ_pos left), BreakingStore.value_read key shadows.lasts,
        WorkingStore.value_read key shadows.works, shadows.texts (Nat.succ_pos left)]

end

end AdaptiveView

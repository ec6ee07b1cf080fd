import AdaptiveView.Proofs.Preference.Breaking

/-!
# The changes as a log

What a store reports is a complete log of it: replayed over the texts of any earlier moment, the changes
reported since then give the texts of now.  That holds of a database whichever of its statements fail,
because an access that fails is not reported and changes nothing, and one that takes effect is reported
as it was made.

A database none of whose statements fails cannot be told from a store in memory: with the same texts at
first both give the same answers and report the same changes.

The log is all that was ever reported.  How much of it reaches a subscriber that comes late is not said
here.
-/

set_option autoImplicit false

namespace AdaptiveView

/-- What a store answers: a text that it read, or whether it did what was asked. -/
inductive StoreAnswer where
  | text (value : Option String)
  | done
  | failed (error : StoreError)
  deriving DecidableEq

def StoreAnswer.ofOutcome : Except StoreError Unit → StoreAnswer
  | .ok () => .done
  | .error error => .failed error

namespace StoreAccess

def answer {σ : Type} [PreferenceStore σ] (store : σ) : StoreAccess → StoreAnswer
  | .read key => .text (PreferenceStore.read store key).1
  | .write key value => .ofOutcome (PreferenceStore.write store key value).1
  | .remove key => .ofOutcome (PreferenceStore.remove store key).1

/-- The answer where the access takes effect, given the text that stood under its key. -/
def granted (access : StoreAccess) (text : Option String) : StoreAnswer :=
  match access with
  | .read _ => .text text
  | .write _ _ | .remove _ => .done

/-- The answer where it fails: a store that cannot answer a reader gives nothing. -/
def refused : StoreAccess → StoreAnswer
  | .read _ => .text none
  | .write _ _ | .remove _ => .failed .refused

end StoreAccess

def answers {σ : Type} [PreferenceStore σ] (store : σ) : List StoreAccess → List StoreAnswer
  | [] => []
  | access :: rest => access.answer store :: answers (access.on store) rest

/-- Texts under their keys after one change. -/
def Change.over (texts : String → Option String) (change : Change) : String → Option String :=
  fun key => if key = change.key then change.value else texts key

/-- Texts under their keys after changes, one after the other. -/
def replayed (texts : String → Option String) (changes : List Change) : String → Option String :=
  changes.foldl Change.over texts

theorem replayed_append (texts : String → Option String) (first second : List Change) :
    replayed texts (first ++ second) = replayed (replayed texts first) second :=
  List.foldl_append

/-- The reports of an access that takes effect say what becomes of the texts. -/
theorem replayed_reports (texts : String → Option String) (access : StoreAccess) :
    replayed texts (access.reports (texts access.key)) =
      fun key => access.leaves key (texts key) := by
  cases access with
  | read key => rfl
  | write key value => rfl
  | remove key =>
      funext other
      cases stored : texts key with
      | some value => simp [replayed, StoreAccess.reports, StoreAccess.key, StoreAccess.leaves,
          Change.over, stored]
      | none =>
          -- nothing to remove and nothing to report
          by_cases here : other = key
          · simp [replayed, StoreAccess.reports, StoreAccess.key, StoreAccess.leaves, stored, here]
          · simp [replayed, StoreAccess.reports, StoreAccess.key, StoreAccess.leaves, stored, here]

section
variable {σ : Type} [PreferenceStore σ]

/-- The access takes effect, is reported and gets its answer. -/
structure Granted (texts : σ → String → Option String) (store : σ) (access : StoreAccess) :
    Prop where
  effect : texts (access.on store) = fun key => access.leaves key (texts store key)
  told : reported (access.on store) = reported store ++ access.reports (texts store access.key)
  answer : access.answer store = access.granted (texts store access.key)

/-- The access fails: nothing happens and nothing is reported. -/
structure Refused (texts : σ → String → Option String) (store : σ) (access : StoreAccess) :
    Prop where
  effect : texts (access.on store) = texts store
  told : reported (access.on store) = reported store
  answer : access.answer store = access.refused

/-- The changes of a store tell all that becomes of its texts, whatever is done to it. -/
structure KeepsLog (texts : σ → String → Option String) (store : σ) : Prop where
  /-- What was reported since any moment, replayed over the texts of that moment. -/
  complete : ∀ before after : List StoreAccess, ∃ changes : List Change,
    reported (accessed store (before ++ after)) = reported (accessed store before) ++ changes ∧
      replayed (texts (accessed store before)) changes = texts (accessed store (before ++ after))
  failed : ∀ (before : List StoreAccess) (access : StoreAccess) (error : StoreError),
    access.answer (accessed store before) = .failed error →
      reported (accessed store (before ++ [access])) = reported (accessed store before) ∧
        texts (accessed store (before ++ [access])) = texts (accessed store before)
  removed : ∀ (before : List StoreAccess) (key : String),
    (StoreAccess.remove key).answer (accessed store before) = .done →
      reported (accessed store (before ++ [.remove key])) = reported (accessed store before) ++
        if (texts (accessed store before) key).isSome then [⟨key, none⟩] else []

variable {texts : σ → String → Option String}

/-- Every access is granted or refused, whatever state the store is in. -/
def GrantsOrRefuses (texts : σ → String → Option String) : Prop :=
  ∀ (store : σ) (access : StoreAccess), Granted texts store access ∨ Refused texts store access

theorem replayed_accessed (steps : GrantsOrRefuses texts) (store : σ)
    (accesses : List StoreAccess) :
    ∃ changes : List Change, reported (accessed store accesses) = reported store ++ changes ∧
      replayed (texts store) changes = texts (accessed store accesses) := by
  induction accesses generalizing store with
  | nil => exact ⟨[], (List.append_nil _).symm, rfl⟩
  | cons access rest later =>
      obtain ⟨changes, told, replays⟩ := later (access.on store)
      rcases steps store access with granted | refused
      · refine ⟨access.reports (texts store access.key) ++ changes, ?_, ?_⟩
        · rw [← List.append_assoc, ← granted.told]
          exact told
        · rw [replayed_append, replayed_reports, ← granted.effect]
          exact replays
      · refine ⟨changes, ?_, ?_⟩
        · rw [← refused.told]
          exact told
        · rw [← refused.effect]
          exact replays

theorem keepsLog_of_steps (steps : GrantsOrRefuses texts) (store : σ) : KeepsLog texts store := by
  constructor
  case complete =>
    intro before after
    rw [accessed_append]
    exact replayed_accessed steps _ after
  case failed =>
    intro before access error answer
    rw [accessed_append]
    rcases steps (accessed store before) access with granted | refused
    · rw [granted.answer] at answer
      cases access <;> cases answer
    · exact ⟨refused.told, refused.effect⟩
  case removed =>
    intro before key answer
    rw [accessed_append]
    rcases steps (accessed store before) (.remove key) with granted | refused
    · exact granted.told
    · rw [refused.answer] at answer
      cases answer

end

/-! ## The two stores -/

def MemoryStore.content (store : MemoryStore) : String → Option String :=
  store.entries.get?

theorem MemoryStore.granted (store : MemoryStore) (access : StoreAccess) :
    Granted MemoryStore.content store access := by
  have works : WorkingStore.Works store := trivial
  refine ⟨?_, reported_access works access, ?_⟩
  · funext key
    exact content_access works access key
  · cases access with
    | read key => rfl
    | write key value => rfl
    | remove key =>
        cases stored : store.entries.get? key <;>
          simp [StoreAccess.answer, StoreAccess.granted, StoreAnswer.ofOutcome,
            PreferenceStore.remove, stored]

namespace Database

theorem granted_of_statement {db : Database} {rows : Entries}
    (answer : db.statement = (.ok rows, { db with statements := db.statements + 1 }))
    (table : db.table = some rows) (access : StoreAccess) : Granted Database.content db access := by
  obtain ⟨later, feed, here, texts, told⟩ := on_of_statement answer table access
  have stored : db.content = rows.get? := by
    funext key
    simp [content, table]
  refine ⟨?_, ?_, ?_⟩
  · funext key
    simp [here, content, texts, table]
  · simp [here, reported, PreferenceStore.feed, stored, told]
  · rw [stored]
    cases access with
    | read key =>
        simp [StoreAccess.answer, StoreAccess.granted, StoreAccess.key, PreferenceStore.read,
          select, answer]
    | write key value =>
        simp [StoreAccess.answer, StoreAccess.granted, StoreAnswer.ofOutcome,
          PreferenceStore.write, upsert, answer]
    | remove key =>
        simp [StoreAccess.answer, StoreAccess.granted, StoreAnswer.ofOutcome,
          PreferenceStore.remove, delete, answer]

theorem refused_of_statement {db : Database}
    (answer : db.statement = (.error .refused, { db with statements := db.statements + 1 }))
    (access : StoreAccess) : Refused Database.content db access := by
  have here := on_of_refused answer access
  refine ⟨?_, ?_, ?_⟩
  · rw [here]
    rfl
  · rw [here]
    rfl
  · cases access with
    | read key => simp [StoreAccess.answer, StoreAccess.refused, PreferenceStore.read, select, answer]
    | write key value =>
        simp [StoreAccess.answer, StoreAccess.refused, StoreAnswer.ofOutcome,
          PreferenceStore.write, upsert, answer]
    | remove key =>
        simp [StoreAccess.answer, StoreAccess.refused, StoreAnswer.ofOutcome,
          PreferenceStore.remove, delete, answer]

theorem grantsOrRefuses : GrantsOrRefuses Database.content := by
  intro db access
  cases fails : db.fails db.statements with
  | true => exact .inr (refused_of_statement (by simp [statement, fails]) access)
  | false =>
      cases table : db.table with
      | none => exact .inr (refused_of_statement (by simp [statement, fails, table]) access)
      | some rows =>
          exact .inl (granted_of_statement (by simp [statement, fails, table]) table access)

/-- It has its table, and so many statements from now on do not fail. -/
structure Unfailing (count : Nat) (db : Database) : Prop where
  present : db.table.isSome
  quiet : ∀ number, db.statements ≤ number → number < db.statements + count →
    db.fails number = false

theorem Unfailing.step {count : Nat} {db : Database} (unfailing : Unfailing (count + 1) db)
    (access : StoreAccess) :
    Granted Database.content db access ∧ Unfailing count (access.on db) := by
  obtain ⟨rows, table⟩ := Option.isSome_iff_exists.mp unfailing.present
  have succeeds : db.fails db.statements = false :=
    unfailing.quiet db.statements (Nat.le_refl _) (by omega)
  have answer : db.statement = (.ok rows, { db with statements := db.statements + 1 }) := by
    simp [statement, succeeds, table]
  refine ⟨granted_of_statement answer table access, ?_⟩
  obtain ⟨later, feed, here, -, -⟩ := on_of_statement answer table access
  rw [here]
  refine ⟨rfl, ?_⟩
  intro number late early
  apply unfailing.quiet number
  · exact Nat.le_of_succ_le late
  · simp only at early
    omega

/-- Step by step the database does what the store in memory does. -/
theorem Unfailing.like_memory {db : Database} {store : MemoryStore} {accesses : List StoreAccess}
    (unfailing : Unfailing accesses.length db) (same : db.content = store.content) :
    answers db accesses = answers store accesses ∧
      (accessed db accesses).content = (accessed store accesses).content ∧
      ∃ changes : List Change,
        reported (accessed db accesses) = reported db ++ changes ∧
          reported (accessed store accesses) = reported store ++ changes := by
  induction accesses generalizing db store with
  | nil => exact ⟨rfl, same, [], by simp [accessed]⟩
  | cons access rest later =>
      obtain ⟨here, unfailing⟩ := unfailing.step access
      have there := store.granted access
      have stays : (access.on db).content = (access.on store).content := by
        rw [here.effect, there.effect, same]
      obtain ⟨alike, texts, changes, told, toldThere⟩ := later unfailing stays
      refine ⟨?_, texts, access.reports (store.content access.key) ++ changes, ?_, ?_⟩
      · rw [answers, answers, here.answer, there.answer, same, alike]
      · rw [accessed, told, here.told, same, List.append_assoc]
      · rw [accessed, toldThere, there.told, List.append_assoc]

end Database

/-! ## Both of them keep a log -/

/-- Whichever statements of the database fail, both stores keep a complete log.  While none fails the
database answers and reports like the store in memory. -/
theorem stores_keep_log (db : Database) (store : MemoryStore) :
    KeepsLog Database.content db ∧ KeepsLog MemoryStore.content store ∧
      ∀ accesses : List StoreAccess,
        db.Unfailing accesses.length → db.content = store.content →
          answers db accesses = answers store accesses ∧
            ∃ changes : List Change,
              reported (accessed db accesses) = reported db ++ changes ∧
                reported (accessed store accesses) = reported store ++ changes := by
  refine ⟨?_, ?_, ?_⟩
  · exact keepsLog_of_steps Database.grantsOrRefuses db
  · exact keepsLog_of_steps (fun store access => .inl (store.granted access)) store
  · intro accesses unfailing same
    obtain ⟨alike, -, changes⟩ := unfailing.like_memory same
    exact ⟨alike, changes⟩

/-- A database with one preference, whose fourth statement fails. -/
def shakyDatabase : Database :=
  { Database.new with
    table := some ⟨[("accounts.view_mode", "grouped")]⟩
    fails := fun number => number == 3 }

/-- Its first three statements are like those of a store in memory; the fourth fails to remove a
preference that is there, and nothing of that is in the log. -/
theorem shakyDatabase_keeps_log :
    let store : MemoryStore := ⟨⟨[("accounts.view_mode", "grouped")]⟩, .new⟩
    let first : List StoreAccess :=
      [.remove "accounts.density", .write "accounts.density" "compact",
        .read "accounts.view_mode"]
    let shaken := accessed shakyDatabase first
    answers shakyDatabase first = answers store first ∧
      (StoreAccess.remove "accounts.view_mode").answer shaken = .failed .refused ∧
      reported (accessed shakyDatabase (first ++ [.remove "accounts.view_mode"])) =
        [⟨"accounts.density", some "compact"⟩] := by
  intro store first shaken
  obtain ⟨log, -, alike⟩ := stores_keep_log shakyDatabase store
  have unfailing : shakyDatabase.Unfailing first.length := by
    refine ⟨rfl, ?_⟩
    intro number _ early
    have before : number < 3 := early
    simp only [shakyDatabase, beq_eq_false_iff_ne]
    omega
  have refused :
      (StoreAccess.remove "accounts.view_mode").answer shaken = .failed .refused := by
    decide
  obtain ⟨silent, -⟩ := log.failed first (.remove "accounts.view_mode") .refused refused
  refine ⟨(alike first unfailing rfl).1, refused, ?_⟩
  rw [silent]
  decide

end AdaptiveView

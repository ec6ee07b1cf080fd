import AdaptiveView.Proofs.Grouping.Members
import Mathlib.Data.List.Nodup

/-!
# Groups and their keys

No two groups have the same key, and the group of a key holds the records of that key.  Sorting the
groups does not matter here, because with distinct keys it is the same group that is found.
-/

set_option autoImplicit false

namespace AdaptiveView

open AdaptiveView.Calendar

variable {R : Type} [Record R]

/-! ## Distinct keys -/

theorem keys_place (name : GroupName) (record : R) (buckets : List (Bucket R)) :
    (place name record buckets).map Bucket.key =
      if name.key ∈ buckets.map Bucket.key then buckets.map Bucket.key
      else buckets.map Bucket.key ++ [name.key] := by
  induction buckets with
  | nil => rfl
  | cons bucket rest ih =>
      unfold place
      by_cases same : bucket.key = name.key
      · rw [if_pos same, if_pos (by simp [same])]
        rfl
      · rw [if_neg same, List.map_cons, ih]
        have different : ¬ name.key = bucket.key := fun reversed => same reversed.symm
        by_cases among : name.key ∈ rest.map Bucket.key
        · simp [among]
        · simp only [among, different, List.map_cons, List.mem_cons, or_self, if_false,
            List.cons_append]

theorem nodup_keys_place (name : GroupName) (record : R) {buckets : List (Bucket R)}
    (distinct : (buckets.map Bucket.key).Nodup) :
    ((place name record buckets).map Bucket.key).Nodup := by
  rw [keys_place]
  split
  · exact distinct
  case isFalse fresh =>
      rw [← List.concat_eq_append]
      exact distinct.concat fresh

theorem nodup_keys_foldl_place (nameOf : R → GroupName) (records : List R)
    {buckets : List (Bucket R)} (distinct : (buckets.map Bucket.key).Nodup) :
    ((records.foldl (fun buckets record => place (nameOf record) record buckets) buckets).map
      Bucket.key).Nodup := by
  induction records generalizing buckets with
  | nil => exact distinct
  | cons record rest ih => exact ih (nodup_keys_place (nameOf record) record distinct)

theorem nodup_keys_collect (groupBy : GroupBy) (now : Instant) (records : List R) :
    ((collect groupBy now records).map Bucket.key).Nodup := by
  apply nodup_keys_foldl_place
  split <;> simp

theorem mem_keys_place {key : String} {name : GroupName} {record : R}
    {buckets : List (Bucket R)} :
    key ∈ (place name record buckets).map Bucket.key ↔
      key ∈ buckets.map Bucket.key ∨ name.key = key := by
  rw [keys_place]
  split
  case isTrue among =>
      constructor
      · exact Or.inl
      · rintro (known | rfl)
        · exact known
        · exact among
  case isFalse =>
      rw [List.mem_append, List.mem_singleton]
      exact or_congr_right eq_comm

theorem mem_keys_foldl_place (key : String) (nameOf : R → GroupName) (records : List R)
    (buckets : List (Bucket R)) :
    key ∈ (records.foldl (fun buckets record => place (nameOf record) record buckets)
        buckets).map Bucket.key ↔
      key ∈ buckets.map Bucket.key ∨ ∃ record ∈ records, (nameOf record).key = key := by
  induction records generalizing buckets with
  | nil => simp
  | cons record rest ih =>
      rw [List.foldl_cons, ih, mem_keys_place, or_assoc]
      simp only [List.mem_cons, exists_eq_or_imp]

/-- There is a group for the key of each record, and for `all` where nothing is grouped by. -/
theorem mem_keys_collect {key : String} {groupBy : GroupBy} {now : Instant}
    {records : List R} :
    key ∈ (collect groupBy now records).map Bucket.key ↔
      (groupBy = .none ∧ key = "all") ∨
        ∃ record ∈ records, (GroupName.of groupBy now record).key = key := by
  have placed := mem_keys_foldl_place key (GroupName.of groupBy now) records
    (if groupBy = .none then [Bucket.empty (.everything R)] else [])
  have first : key ∈ (if groupBy = .none then [Bucket.empty (.everything R)] else [] :
      List (Bucket R)).map Bucket.key ↔ groupBy = .none ∧ key = "all" := by
    split
    case isTrue ungrouped => simp [ungrouped, Bucket.empty, GroupName.everything]
    case isFalse grouped => simp [grouped]
  rw [first] at placed
  exact placed

theorem keys_sortMembers (buckets : List (Bucket R)) :
    (buckets.map Bucket.sortMembers).map Bucket.key = buckets.map Bucket.key := by
  rw [List.map_map]
  rfl

theorem nodup_keys_groupRecords (groupBy : GroupBy) (now : Instant) (records : List R) :
    ((groupRecords groupBy now records).map Bucket.key).Nodup := by
  have moved := (groupRecords_perm groupBy now records).map Bucket.key
  rw [moved.nodup_iff, keys_sortMembers]
  exact nodup_keys_collect groupBy now records

/-! ## The item of a key -/

section
variable {α κ : Type} [DecidableEq κ] {keyOf : α → κ} {items others : List α}

theorem find?_key_iff (distinct : (items.map keyOf).Nodup) (key : κ) (item : α) :
    (items.find? fun item => keyOf item = key) = some item ↔ item ∈ items ∧ keyOf item = key := by
  constructor
  · intro found
    exact ⟨List.mem_of_find?_eq_some found, by simpa using List.find?_some found⟩
  · rintro ⟨among, rfl⟩
    cases found : items.find? fun other => keyOf other = keyOf item with
    | none =>
        rw [List.find?_eq_none] at found
        exact absurd (decide_eq_true rfl) (found item among)
    | some other =>
        have amongToo := List.mem_of_find?_eq_some found
        have same : keyOf other = keyOf item := by simpa using List.find?_some found
        rw [List.inj_on_of_nodup_map distinct amongToo among same]

theorem find?_key_of_perm (distinct : (items.map keyOf).Nodup) (moved : items.Perm others)
    (key : κ) :
    (items.find? fun item => keyOf item = key) = others.find? fun item => keyOf item = key := by
  have distinctToo : (others.map keyOf).Nodup := (moved.map keyOf).nodup_iff.mp distinct
  apply Option.ext
  intro item
  rw [find?_key_iff distinct, find?_key_iff distinctToo, moved.mem_iff]

end

/-! ## The group of a key -/

/-- The members of the group with this key; none without such a group. -/
def membersUnder (key : String) (buckets : List (Bucket R)) : List R :=
  ((buckets.find? fun bucket => bucket.key = key).map Bucket.members).getD []

theorem membersUnder_place (key : String) (name : GroupName) (record : R)
    (buckets : List (Bucket R)) :
    membersUnder key (place name record buckets) =
      if name.key = key then membersUnder key buckets ++ [record]
      else membersUnder key buckets := by
  induction buckets with
  | nil =>
      by_cases named : name.key = key <;>
        simp [membersUnder, place, named, Bucket.add, Bucket.empty]
  | cons bucket rest ih =>
      unfold place
      by_cases same : bucket.key = name.key
      · by_cases named : name.key = key <;>
          simp [membersUnder, same, named, Bucket.add]
      · rw [if_neg same]
        by_cases first : bucket.key = key
        · have unnamed : ¬ name.key = key := fun named => same (first.trans named.symm)
          simp [membersUnder, first, unnamed]
        · simpa [membersUnder, first] using ih

theorem membersUnder_foldl_place (key : String) (nameOf : R → GroupName) (records : List R)
    (buckets : List (Bucket R)) :
    membersUnder key
        (records.foldl (fun buckets record => place (nameOf record) record buckets) buckets) =
      membersUnder key buckets ++ records.filter fun record => (nameOf record).key = key := by
  induction records generalizing buckets with
  | nil => simp
  | cons record rest ih =>
      rw [List.foldl_cons, ih, membersUnder_place]
      by_cases named : (nameOf record).key = key <;> simp [named]

theorem membersUnder_collect (key : String) (groupBy : GroupBy) (now : Instant)
    (records : List R) :
    membersUnder key (collect groupBy now records) =
      records.filter fun record => (GroupName.of groupBy now record).key = key := by
  have nothing : membersUnder key
      (if groupBy = .none then [Bucket.empty (.everything R)] else [] : List (Bucket R)) =
        [] := by
    split
    · by_cases named : (GroupName.everything R).key = key <;>
        simp [membersUnder, Bucket.empty, named]
    · rfl
  have placed := membersUnder_foldl_place key (GroupName.of groupBy now) records
    (if groupBy = .none then [Bucket.empty (.everything R)] else [])
  rw [nothing, List.nil_append] at placed
  exact placed

theorem members_of_mem_collect {groupBy : GroupBy} {now : Instant} {records : List R}
    {bucket : Bucket R} (among : bucket ∈ collect groupBy now records) :
    bucket.members =
      records.filter fun record => (GroupName.of groupBy now record).key = bucket.key := by
  have found := (find?_key_iff (nodup_keys_collect groupBy now records) bucket.key bucket).mpr
    ⟨among, rfl⟩
  have under := membersUnder_collect bucket.key groupBy now records
  rw [membersUnder, found] at under
  exact under

theorem membersUnder_sortMembers (key : String) (buckets : List (Bucket R)) :
    (membersUnder key (buckets.map Bucket.sortMembers)).Perm (membersUnder key buckets) := by
  have found : (buckets.map Bucket.sortMembers).find? (fun bucket => bucket.key = key) =
      (buckets.find? fun bucket => bucket.key = key).map Bucket.sortMembers := by
    rw [List.find?_map]
    rfl
  unfold membersUnder
  rw [found]
  cases buckets.find? fun bucket => bucket.key = key with
  | none => exact .refl _
  | some bucket => exact members_sortMembers bucket

/-- The group of a key holds the records of that key. -/
theorem membersUnder_groupRecords (key : String) (groupBy : GroupBy) (now : Instant)
    (records : List R) :
    (membersUnder key (groupRecords groupBy now records)).Perm
      (records.filter fun record => (GroupName.of groupBy now record).key = key) := by
  have found := find?_key_of_perm (nodup_keys_groupRecords groupBy now records)
    (groupRecords_perm groupBy now records) key
  have same : membersUnder key (groupRecords groupBy now records) =
      membersUnder key ((collect groupBy now records).map Bucket.sortMembers) := by
    unfold membersUnder
    rw [found]
  rw [same, ← membersUnder_collect]
  exact membersUnder_sortMembers key _

end AdaptiveView

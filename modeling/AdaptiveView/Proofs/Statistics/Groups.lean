import AdaptiveView.Proofs.Grouping.Partition
import AdaptiveView.Proofs.Record.Keys
import AdaptiveView.Statistics
import Mathlib.Algebra.BigOperators.Group.List.Basic
import Mathlib.Algebra.GroupWithZero.Nat

/-!
# Statistics and groups count alike

The statistics of a collection are counted apart from its groups: categories are told apart by their
value there, and by their key here.  Both open a line for a category when it first comes up, so that
after every record the lines of the one are those of the other.  Whatever the collection is grouped by,
the numbers of its groups add up to those of the whole.
-/

set_option autoImplicit false

namespace AdaptiveView

open AdaptiveView.Calendar Std

variable {R : Type} [Record R]

/-! ## The order of the categories -/

namespace CategoryCount

/-- A larger count, or the same one and a smaller key. -/
def Precedes (a b : CategoryCount) : Prop :=
  b.count < a.count ∨ a.count = b.count ∧ a.key < b.key

theorem compare_eq_lt_iff {a b : CategoryCount} : a.compare b = .lt ↔ a.Precedes b := by
  have keys : Ord.compare a.key b.key = .lt ↔ a.key < b.key := compareOfLessAndEq_eq_lt
  rw [compare, Ordering.then_eq_lt, Nat.compare_eq_lt, Nat.compare_eq_eq, keys, Precedes,
    eq_comm (a := b.count)]

theorem key_eq_of_compare {a b : CategoryCount} (same : a.compare b = .eq) : a.key = b.key := by
  rw [compare, Ordering.then_eq_eq] at same
  exact LawfulEqOrd.eq_of_compare same.2

instance : TransCmp compare :=
  have : TransCmp fun a b : CategoryCount => compareOn count b a := .opposite
  inferInstanceAs (TransCmp (compareLex (fun a b => compareOn count b a) (compareOn key)))

end CategoryCount

/-! ## Both counts in step -/

/-- The line of a category that has come up so often. -/
def lineOf {C : Type} [Classifier C] (entry : C × Nat) : CategoryCount :=
  ⟨Classifier.key entry.1, Classifier.label entry.1, entry.2⟩

/-- The line that a group makes if it is one of a category. -/
def Bucket.line (bucket : Bucket R) : CategoryCount :=
  ⟨bucket.key, bucket.label, bucket.size⟩

theorem Bucket.line_sortMembers (bucket : Bucket R) : bucket.sortMembers.line = bucket.line := by
  have size : bucket.sortMembers.size = bucket.size := (members_sortMembers bucket).length_eq
  rw [line, size]
  rfl

theorem Bucket.line_add (bucket : Bucket R) (record : R) :
    (bucket.add record).line = ⟨bucket.key, bucket.label, bucket.size + 1⟩ := by
  simp only [line, add, size, List.length_append, List.length_singleton]

section
variable [DistinctKeys R]

/-- One more record keeps the lines of both counts the same. -/
theorem lines_tally (now : Instant) (record : R) {counts : List (Record.Category R × Nat)}
    {buckets : List (Bucket R)} (inStep : counts.map lineOf = buckets.map Bucket.line) :
    (tally (Record.category record) counts).map lineOf =
      (place (.of .category now record) record buckets).map Bucket.line := by
  induction counts generalizing buckets with
  | nil =>
      obtain rfl : buckets = [] := List.map_eq_nil_iff.mp inStep.symm
      rfl
  | cons entry counts ih =>
      cases buckets with
      | nil => cases inStep
      | cons bucket buckets =>
          obtain ⟨category, count⟩ := entry
          rw [List.map_cons, List.map_cons, List.cons.injEq] at inStep
          obtain ⟨first, rest⟩ := inStep
          obtain ⟨key, label, size⟩ := CategoryCount.mk.inj first
          have sameGroup : bucket.key = (GroupName.of .category now record).key ↔
              category = Record.category record := by
            rw [← key]
            exact DistinctKeys.category.eq_iff
          unfold tally place
          by_cases same : category = Record.category record
          · rw [if_pos same, if_pos (sameGroup.mpr same), List.map_cons, List.map_cons, rest,
              Bucket.line_add, ← key, ← label, ← size]
            rfl
          · rw [if_neg same, if_neg (mt sameGroup.mp same), List.map_cons, List.map_cons, first,
              ih rest]

theorem lines_foldl (now : Instant) (records : List R) {counts : List (Record.Category R × Nat)}
    {buckets : List (Bucket R)} (inStep : counts.map lineOf = buckets.map Bucket.line) :
    (records.foldl (fun counts record => tally (Record.category record) counts) counts).map
        lineOf =
      (records.foldl (fun buckets record => place (.of .category now record) record buckets)
        buckets).map Bucket.line := by
  induction records generalizing counts buckets with
  | nil => exact inStep
  | cons record rest ih => exact ih (lines_tally now record inStep)

/-- The lines of the categories are those of the groups by category, in an order of their own. -/
theorem categoryCounts_perm (now : Instant) (records : List R) :
    (categoryCounts records).Perm ((groupRecords .category now records).map Bucket.line) := by
  have lines : (records.foldl (fun counts record => tally (Record.category record) counts)
      []).map lineOf = (collect .category now records).map Bucket.line := by
    apply lines_foldl now records
    rfl
  have sorted : (categoryCounts records).Perm
      ((collect .category now records).map Bucket.line) := by
    rw [← lines]
    exact List.mergeSort_perm _ _
  have groups := (groupRecords_perm .category now records).map Bucket.line
  rw [List.map_map, show Bucket.line ∘ Bucket.sortMembers = Bucket.line (R := R) from
    funext Bucket.line_sortMembers] at groups
  exact sorted.trans groups.symm

end

/-! ## Sums over groups -/

theorem sum_sizes (groupBy : GroupBy) (now : Instant) (records : List R) :
    ((groupRecords groupBy now records).map Bucket.size).sum = records.length := by
  have together := (allMembers_groupRecords groupBy now records).length_eq
  rwa [allMembers, List.length_flatMap] at together

/-- What each group counts of its members adds up to the count of the whole list. -/
theorem sum_counted {countOf : Bucket R → Nat} {test : R → Bool} {groupBy : GroupBy}
    {now : Instant} {records : List R}
    (counted : ∀ bucket ∈ groupRecords groupBy now records,
      countOf bucket = bucket.members.countP test) :
    ((groupRecords groupBy now records).map countOf).sum = records.countP test := by
  have together := (allMembers_groupRecords groupBy now records).countP_eq test
  rw [allMembers, List.countP_flatMap] at together
  rw [← together]
  congr 1
  exact List.map_congr_left counted

/-! ## The statistics of a collection -/

/-- The label and the count of the category with this key. -/
def CollectionStats.category? (stats : CollectionStats) (key : String) : Option (String × Nat) :=
  (stats.byCategory.find? fun row => row.key = key).map fun row => (row.label, row.count)

/-- The label and the size of the group with this key. -/
def group? (groups : List (Bucket R)) (key : String) : Option (String × Nat) :=
  (groups.find? fun bucket => bucket.key = key).map fun bucket => (bucket.label, bucket.size)

/-- Statistics count the records that the groups of `records` hold. -/
structure CollectionStats.CountsGroups (stats : CollectionStats) (records : List R)
    (now : Instant) : Prop where
  members : ∀ groupBy, ((groupRecords groupBy now records).map Bucket.size).sum = stats.total
  errors : ∀ groupBy,
    ((groupRecords groupBy now records).map Bucket.errorCount).sum = stats.error
  active : ∀ groupBy,
    ((groupRecords groupBy now records).map Bucket.activeCount).sum = stats.active
  distinct : (stats.byCategory.map CategoryCount.key).Nodup
  positive : ∀ row ∈ stats.byCategory, 0 < row.count
  together : (stats.byCategory.map CategoryCount.count).sum = stats.total
  ordered : stats.byCategory.Pairwise CategoryCount.Precedes
  categories : stats.category? = group? (groupRecords .category now records)

section
variable [DistinctKeys R]

theorem distinct_categoryCounts (now : Instant) (records : List R) :
    ((categoryCounts records).map CategoryCount.key).Nodup := by
  have moved := (categoryCounts_perm now records).map CategoryCount.key
  rw [List.map_map] at moved
  exact moved.nodup_iff.mpr (nodup_keys_groupRecords .category now records)

theorem precedes_categoryCounts (now : Instant) (records : List R) :
    (categoryCounts records).Pairwise CategoryCount.Precedes := by
  have ordered := (stablySorted_mergeSort CategoryCount.compare ((records.foldl
    (fun counts record => tally (Record.category record) counts) []).map lineOf)).ordered
  apply (pairwise_lt_of_distinct CategoryCount.key
    (fun _ _ => CategoryCount.key_eq_of_compare) ordered
    (distinct_categoryCounts now records)).imp
  intro a b
  exact CategoryCount.compare_eq_lt_iff.mp

theorem category?_of (now : Instant) (records : List R) (key : String) :
    (CollectionStats.of records).category? key =
      group? (groupRecords .category now records) key := by
  have found := find?_key_of_perm (distinct_categoryCounts now records)
    (categoryCounts_perm now records) key
  rw [List.find?_map] at found
  change ((categoryCounts records).find? fun row => row.key = key).map _ = _
  rw [found, Option.map_map]
  rfl

theorem countsGroups (records : List R) (now : Instant) :
    (CollectionStats.of records).CountsGroups records now where
  members groupBy := sum_sizes groupBy now records
  errors groupBy := sum_counted fun _ among => (counted_groupRecords among).1
  active groupBy := sum_counted fun _ among => (counted_groupRecords among).2
  distinct := distinct_categoryCounts now records
  positive row among := by
    have moved := (categoryCounts_perm now records).mem_iff.mp among
    obtain ⟨bucket, amongGroups, rfl⟩ := List.mem_map.mp moved
    exact List.length_pos_of_ne_nil (members_ne_nil (by decide) amongGroups)
  together := by
    have moved := ((categoryCounts_perm now records).map CategoryCount.count).sum_eq
    rw [List.map_map] at moved
    exact moved.trans (sum_sizes .category now records)
  ordered := precedes_categoryCounts now records
  categories := funext (category?_of now records)

end

/-- No account has two of these three states. -/
theorem states_of_accounts_le (accounts : List Account) :
    accounts.countP Record.isActive + accounts.countP Record.isDisabled +
      accounts.countP Record.isError ≤ accounts.length := by
  induction accounts with
  | nil => exact Nat.le_refl 0
  | cons account rest ih =>
      have states : (if Record.isActive account then 1 else 0) +
          (if Record.isDisabled account then 1 else 0) +
            (if Record.isError account then 1 else 0) ≤ 1 := by
        cases status : account.status <;>
          simp [Record.isActive, Record.isDisabled, Record.isError, status]
      simp only [List.countP_cons, List.length_cons]
      omega

/-- The statistics of accounts and of messages count what their groups hold, and the states of accounts
exclude each other. -/
theorem statistics_agree_with_groups :
    (∀ (accounts : List Account) (now : Instant),
        let stats := CollectionStats.of accounts
        stats.CountsGroups accounts now ∧
          stats.active + stats.disabled + stats.error ≤ stats.total) ∧
      ∀ (messages : List Email) (now : Instant),
        (CollectionStats.of messages).CountsGroups messages now := by
  constructor
  · intro accounts now stats
    exact ⟨countsGroups accounts now, states_of_accounts_le accounts⟩
  · intro messages now
    exact countsGroups messages now

end AdaptiveView

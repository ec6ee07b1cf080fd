import AdaptiveView.Proofs.Grouping.Keys
import AdaptiveView.Proofs.Sorting.Stable

/-!
# Grouping is a partition

The groups of a list of records: one for each key that a record has, holding the records of that key in
the order of their primary texts, with their numbers of errors and of active members, groups with more
errors first, then larger ones, then by key.  An ungrouped collection has its one group even when it is
empty; there is no other empty group.
-/

set_option autoImplicit false

namespace AdaptiveView

open AdaptiveView.Calendar Std

variable {R : Type} [Record R]

/-! ## The order of groups -/

namespace Bucket

/-- More errors, or as many and more members, or as many of both and a smaller key. -/
def Precedes (a b : Bucket R) : Prop :=
  b.errorCount < a.errorCount ∨
    a.errorCount = b.errorCount ∧
      (b.size < a.size ∨ a.size = b.size ∧ a.key < b.key)

omit [Record R] in
theorem compare_eq_lt_iff {a b : Bucket R} : a.compare b = .lt ↔ a.Precedes b := by
  simp only [Bucket.compare, Ordering.then_eq_lt, Nat.compare_eq_lt, Nat.compare_eq_eq, Precedes,
    eq_comm (a := b.errorCount), eq_comm (a := b.size)]
  have keys : Ord.compare a.key b.key = .lt ↔ a.key < b.key := compareOfLessAndEq_eq_lt
  rw [keys]

omit [Record R] in
theorem key_eq_of_compare {a b : Bucket R} (same : a.compare b = .eq) : a.key = b.key := by
  simp only [Bucket.compare, Ordering.then_eq_eq] at same
  exact LawfulEqOrd.eq_of_compare same.2.2

instance : TransCmp (Bucket.compare (R := R)) :=
  have : TransCmp fun a b : Bucket R => compareOn Bucket.errorCount b a := .opposite
  have : TransCmp fun a b : Bucket R => compareOn Bucket.size b a := .opposite
  inferInstanceAs (TransCmp (compareLex (fun a b => compareOn Bucket.errorCount b a)
    (compareLex (fun a b => compareOn Bucket.size b a) (compareOn Bucket.key))))

end Bucket

theorem precedes_groupRecords (groupBy : GroupBy) (now : Instant) (records : List R) :
    (groupRecords groupBy now records).Pairwise Bucket.Precedes := by
  have ordered := (stablySorted_mergeSort Bucket.compare
    ((collect groupBy now records).map Bucket.sortMembers)).ordered
  apply (pairwise_lt_of_distinct Bucket.key (fun _ _ => Bucket.key_eq_of_compare) ordered
    (nodup_keys_groupRecords groupBy now records)).imp
  intro a b
  exact Bucket.compare_eq_lt_iff.mp

/-! ## What is in a group -/

/-- The order of the members of a group. -/
def titleOrder (a b : R) : Ordering :=
  textOrder (Record.primaryText a) (Record.primaryText b)

instance : TransCmp (titleOrder (R := R)) :=
  inferInstanceAs (TransCmp (compareOn fun record : R => Text.foldCase (Record.primaryText record)))

/-- The numbers of a group are those of its members. -/
def Bucket.Counted (bucket : Bucket R) : Prop :=
  bucket.errorCount = bucket.members.countP Record.isError ∧
    bucket.activeCount = bucket.members.countP Record.isActive

namespace Bucket

theorem counted_empty (name : GroupName) : (empty name : Bucket R).Counted :=
  ⟨rfl, rfl⟩

theorem Counted.add {bucket : Bucket R} (counted : bucket.Counted) (record : R) :
    (bucket.add record).Counted := by
  obtain ⟨errors, active⟩ := counted
  simp only [Counted, Bucket.add, List.countP_append, List.countP_singleton, errors, active,
    and_self]

theorem Counted.sortMembers {bucket : Bucket R} (counted : bucket.Counted) :
    bucket.sortMembers.Counted := by
  have moved := members_sortMembers bucket
  exact ⟨counted.1.trans (moved.countP_eq Record.isError).symm,
    counted.2.trans (moved.countP_eq Record.isActive).symm⟩

end Bucket

/-- What holds of a group with its first member and stays when a member is added holds of all groups
that are made by placing records. -/
theorem forall_place {holds : Bucket R → Prop} {name : GroupName} {record : R}
    (opened : holds ((Bucket.empty name).add record))
    (joined : ∀ bucket, holds bucket → holds (bucket.add record)) {buckets : List (Bucket R)}
    (before : ∀ bucket ∈ buckets, holds bucket) :
    ∀ bucket ∈ place name record buckets, holds bucket := by
  induction buckets with
  | nil => exact List.forall_mem_singleton.mpr opened
  | cons first rest ih =>
      rw [List.forall_mem_cons] at before
      obtain ⟨beforeFirst, beforeRest⟩ := before
      unfold place
      split
      · exact List.forall_mem_cons.mpr ⟨joined first beforeFirst, beforeRest⟩
      · exact List.forall_mem_cons.mpr ⟨beforeFirst, ih beforeRest⟩

theorem forall_foldl_place {holds : Bucket R → Prop} (nameOf : R → GroupName)
    (opened : ∀ record, holds ((Bucket.empty (nameOf record)).add record))
    (joined : ∀ record bucket, holds bucket → holds (bucket.add record)) (records : List R)
    {buckets : List (Bucket R)} (before : ∀ bucket ∈ buckets, holds bucket) :
    ∀ bucket ∈ records.foldl (fun buckets record => place (nameOf record) record buckets)
      buckets, holds bucket := by
  induction records generalizing buckets with
  | nil => exact before
  | cons record rest ih => exact ih (forall_place (opened record) (joined record) before)

theorem counted_collect (groupBy : GroupBy) (now : Instant) (records : List R) :
    ∀ bucket ∈ collect groupBy now records, bucket.Counted := by
  apply forall_foldl_place
  · intro record
    exact (Bucket.counted_empty _).add record
  · intro record bucket counted
    exact counted.add record
  · split
    · exact List.forall_mem_singleton.mpr (Bucket.counted_empty _)
    · exact List.forall_mem_nil _

/-- Every group is one of the collected ones with its members sorted. -/
theorem mem_groupRecords {groupBy : GroupBy} {now : Instant} {records : List R}
    {bucket : Bucket R} :
    bucket ∈ groupRecords groupBy now records ↔
      ∃ collected ∈ collect groupBy now records, collected.sortMembers = bucket := by
  rw [(groupRecords_perm groupBy now records).mem_iff, List.mem_map]

theorem mem_keys_groupRecords {key : String} {groupBy : GroupBy} {now : Instant}
    {records : List R} :
    key ∈ (groupRecords groupBy now records).map Bucket.key ↔
      (groupBy = .none ∧ key = "all") ∨
        ∃ record ∈ records, (GroupName.of groupBy now record).key = key := by
  have moved := (groupRecords_perm groupBy now records).map Bucket.key
  rw [moved.mem_iff, keys_sortMembers, mem_keys_collect]

/-- The records that belong into the group with this key. -/
abbrev ofKey (groupBy : GroupBy) (now : Instant) (records : List R) (key : String) : List R :=
  records.filter fun record => (GroupName.of groupBy now record).key = key

theorem stablySorted_members {groupBy : GroupBy} {now : Instant} {records : List R}
    {bucket : Bucket R} (among : bucket ∈ groupRecords groupBy now records) :
    StablySorted titleOrder (ofKey groupBy now records bucket.key) bucket.members := by
  obtain ⟨collected, amongCollected, rfl⟩ := mem_groupRecords.mp among
  have sorted := stablySorted_mergeSort titleOrder collected.members
  have unsorted := members_of_mem_collect amongCollected
  change StablySorted titleOrder (ofKey groupBy now records collected.key)
    (collected.members.mergeSort _)
  rw [ofKey, ← unsorted]
  exact sorted

theorem mem_members_iff {groupBy : GroupBy} {now : Instant} {records : List R}
    {bucket : Bucket R} (among : bucket ∈ groupRecords groupBy now records) {record : R} :
    record ∈ bucket.members ↔
      record ∈ records ∧ (GroupName.of groupBy now record).key = bucket.key := by
  rw [(stablySorted_members among).permuted.mem_iff, List.mem_filter, decide_eq_true_iff]

theorem counted_groupRecords {groupBy : GroupBy} {now : Instant} {records : List R}
    {bucket : Bucket R} (among : bucket ∈ groupRecords groupBy now records) :
    bucket.Counted := by
  obtain ⟨collected, amongCollected, rfl⟩ := mem_groupRecords.mp among
  exact (counted_collect groupBy now records collected amongCollected).sortMembers

theorem members_ne_nil {groupBy : GroupBy} (grouped : groupBy ≠ .none) {now : Instant}
    {records : List R} {bucket : Bucket R} (among : bucket ∈ groupRecords groupBy now records) :
    bucket.members ≠ [] := by
  have keyed := mem_keys_groupRecords.mp (List.mem_map_of_mem among)
  rcases keyed with ⟨ungrouped, -⟩ | ⟨record, present, key⟩
  · exact absurd ungrouped grouped
  · exact List.ne_nil_of_mem ((mem_members_iff among).mpr ⟨present, key⟩)

theorem keys_ungrouped (now : Instant) (records : List R) :
    (groupRecords .none now records).map Bucket.key = ["all"] := by
  have distinct := nodup_keys_groupRecords .none now records
  apply List.perm_singleton.mp
  apply (List.perm_ext_iff_of_nodup distinct (List.nodup_singleton "all")).mpr
  intro key
  rw [mem_keys_groupRecords, List.mem_singleton]
  constructor
  · rintro (⟨-, same⟩ | ⟨record, -, same⟩)
    · exact same
    · exact same.symm
  · intro same
    exact Or.inl ⟨rfl, same⟩

/-- `groups` share out the records by their keys. -/
structure SharesOut (groupBy : GroupBy) (now : Instant) (records : List R)
    (groups : List (Bucket R)) : Prop where
  distinct : (groups.map Bucket.key).Nodup
  members : ∀ bucket ∈ groups,
    StablySorted titleOrder (ofKey groupBy now records bucket.key) bucket.members
  together : (allMembers groups).Perm records
  counted : ∀ bucket ∈ groups, bucket.Counted
  occupied : groupBy ≠ .none → ∀ bucket ∈ groups, bucket.members ≠ []
  ungrouped : groupBy = .none → groups.map Bucket.key = ["all"]
  ordered : groups.Pairwise Bucket.Precedes

/-- Groups are a partition of the records, each with exact numbers, in a strict order. -/
theorem groups_share_out (groupBy : GroupBy) (now : Instant) (records : List R) :
    SharesOut groupBy now records (groupRecords groupBy now records) where
  distinct := nodup_keys_groupRecords groupBy now records
  members _ among := stablySorted_members among
  together := allMembers_groupRecords groupBy now records
  counted _ among := counted_groupRecords among
  occupied grouped _ among := members_ne_nil grouped among
  ungrouped none := none ▸ keys_ungrouped now records
  ordered := precedes_groupRecords groupBy now records

end AdaptiveView

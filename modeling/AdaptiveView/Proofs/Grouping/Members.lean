import AdaptiveView.Grouping
import Mathlib.Data.List.Perm.Basic

/-!
# Groups share out the records

Whatever records are grouped by, the members of all groups together are the records, each as often as
it stands in the list: placing a record adds it to exactly one group, and sorting the groups and their
members only moves them.
-/

set_option autoImplicit false

namespace AdaptiveView

open AdaptiveView.Calendar

variable {R : Type} [Record R]

/-- The members of all groups, group by group. -/
def allMembers (buckets : List (Bucket R)) : List R :=
  buckets.flatMap Bucket.members

theorem allMembers_place (name : GroupName) (record : R) (buckets : List (Bucket R)) :
    (allMembers (place name record buckets)).Perm (record :: allMembers buckets) := by
  induction buckets with
  | nil => exact .refl _
  | cons bucket rest placed =>
      unfold place
      split
      · -- the record goes to the end of this group
        have moved : ((bucket.members ++ [record]) ++ allMembers rest).Perm
            (record :: (bucket.members ++ allMembers rest)) := by
          rw [List.append_assoc]
          exact List.perm_middle
        exact moved
      · have kept : (bucket.members ++ allMembers (place name record rest)).Perm
            (bucket.members ++ record :: allMembers rest) := placed.append_left bucket.members
        exact kept.trans List.perm_middle

theorem allMembers_foldl_place (nameOf : R → GroupName) (records : List R)
    (buckets : List (Bucket R)) :
    (allMembers
        (records.foldl (fun buckets record => place (nameOf record) record buckets) buckets)).Perm
      (allMembers buckets ++ records) := by
  induction records generalizing buckets with
  | nil =>
      rw [List.append_nil]
      exact .refl _
  | cons record rest later =>
      have placed : (allMembers (place (nameOf record) record buckets) ++ rest).Perm
          (record :: allMembers buckets ++ rest) :=
        (allMembers_place (nameOf record) record buckets).append_right rest
      exact (later _).trans (placed.trans List.perm_middle.symm)

theorem allMembers_collect (groupBy : GroupBy) (now : Instant) (records : List R) :
    (allMembers (collect groupBy now records)).Perm records := by
  have together := allMembers_foldl_place (GroupName.of groupBy now) records
    (if groupBy = .none then [Bucket.empty (.everything R)] else [])
  have nothing : allMembers
      (if groupBy = .none then [Bucket.empty (.everything R)] else [] : List (Bucket R)) =
        [] := by
    split <;> rfl
  rw [nothing] at together
  exact together

theorem members_sortMembers (bucket : Bucket R) : bucket.sortMembers.members.Perm bucket.members :=
  List.mergeSort_perm bucket.members _

theorem groupRecords_perm (groupBy : GroupBy) (now : Instant) (records : List R) :
    (groupRecords groupBy now records).Perm
      ((collect groupBy now records).map Bucket.sortMembers) :=
  List.mergeSort_perm _ _

/-- The groups of a list of records are a partition of it. -/
theorem allMembers_groupRecords (groupBy : GroupBy) (now : Instant) (records : List R) :
    (allMembers (groupRecords groupBy now records)).Perm records := by
  have groupsMoved := (groupRecords_perm groupBy now records).flatMap_right Bucket.members
  have membersMoved : (allMembers ((collect groupBy now records).map Bucket.sortMembers)).Perm
      (allMembers (collect groupBy now records)) := by
    unfold allMembers
    rw [List.flatMap_map]
    apply List.Perm.flatMap_left
    intro bucket _
    exact members_sortMembers bucket
  exact groupsMoved.trans (membersMoved.trans (allMembers_collect groupBy now records))

end AdaptiveView

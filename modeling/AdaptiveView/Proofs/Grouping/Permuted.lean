import AdaptiveView.Proofs.Grouping.Domains

/-!
# The order of the groups is theirs alone

Groups are opened in the order of their first records and then sorted.  What the order compares are
figures of a group that do not depend on how its members stand, and no two groups tie, because no two
have the same key.  So however the records of a list are arranged, the same keys come out in the same
order, with the same numbers of members, of errors and of active members.
-/

set_option autoImplicit false

namespace AdaptiveView

open AdaptiveView.Calendar Std

variable {R : Type} [Record R]

/-! ## Figures -/

/-- What is said of a group apart from its label and its members. -/
structure Figures where
  key : String
  size : Nat
  errorCount : Nat
  activeCount : Nat
  deriving DecidableEq

def Bucket.figures (bucket : Bucket R) : Figures :=
  ⟨bucket.key, bucket.size, bucket.errorCount, bucket.activeCount⟩

namespace Figures

/-- The order of groups depends on their figures only. -/
def Precedes (a b : Figures) : Prop :=
  b.errorCount < a.errorCount ∨
    a.errorCount = b.errorCount ∧
      (b.size < a.size ∨ a.size = b.size ∧ a.key < b.key)

theorem Precedes.asymm {a b : Figures} (first : a.Precedes b) : ¬ b.Precedes a := by
  intro second
  have keys : a.key < b.key → ¬ b.key < a.key := String.lt_asymm
  unfold Precedes at first second
  grind

/-- The figures of the records with a key. -/
def ofKey (groupBy : GroupBy) (now : Instant) (records : List R) (key : String) : Figures :=
  let members := AdaptiveView.ofKey groupBy now records key
  ⟨key, members.length, members.countP Record.isError, members.countP Record.isActive⟩

theorem ofKey_of_perm (groupBy : GroupBy) (now : Instant) {records others : List R}
    (moved : records.Perm others) (key : String) :
    ofKey groupBy now records key = ofKey groupBy now others key := by
  have members : (AdaptiveView.ofKey groupBy now records key).Perm
      (AdaptiveView.ofKey groupBy now others key) := moved.filter _
  simp only [ofKey, members.length_eq, members.countP_eq]

end Figures

theorem figures_of_mem {groupBy : GroupBy} {now : Instant} {records : List R} {bucket : Bucket R}
    (among : bucket ∈ groupRecords groupBy now records) :
    bucket.figures = Figures.ofKey groupBy now records bucket.key := by
  have members := (stablySorted_members among).permuted
  obtain ⟨errors, active⟩ := counted_groupRecords among
  simp only [Bucket.figures, Figures.ofKey, Bucket.size, errors, active, members.length_eq,
    members.countP_eq]

theorem map_figures_groupRecords (groupBy : GroupBy) (now : Instant) (records : List R) :
    (groupRecords groupBy now records).map Bucket.figures =
      ((groupRecords groupBy now records).map Bucket.key).map
        (Figures.ofKey groupBy now records) := by
  rw [List.map_map]
  apply List.map_congr_left
  intro bucket among
  exact figures_of_mem among

/-! ## Lists of the same records -/

theorem keys_perm (groupBy : GroupBy) (now : Instant) {records others : List R}
    (moved : records.Perm others) :
    ((groupRecords groupBy now records).map Bucket.key).Perm
      ((groupRecords groupBy now others).map Bucket.key) := by
  apply (List.perm_ext_iff_of_nodup (nodup_keys_groupRecords groupBy now records)
    (nodup_keys_groupRecords groupBy now others)).mpr
  intro key
  simp only [mem_keys_groupRecords, moved.mem_iff]

theorem figures_perm (groupBy : GroupBy) (now : Instant) {records others : List R}
    (moved : records.Perm others) :
    ((groupRecords groupBy now records).map Bucket.figures).Perm
      ((groupRecords groupBy now others).map Bucket.figures) := by
  have same : Figures.ofKey groupBy now records = Figures.ofKey groupBy now others :=
    funext (Figures.ofKey_of_perm groupBy now moved)
  rw [map_figures_groupRecords, map_figures_groupRecords, same]
  exact (keys_perm groupBy now moved).map _

theorem precedes_figures (groupBy : GroupBy) (now : Instant) (records : List R) :
    ((groupRecords groupBy now records).map Bucket.figures).Pairwise Figures.Precedes :=
  List.pairwise_map.mpr (precedes_groupRecords groupBy now records)

/-- The order of two groups with different keys is decided, and orders of groups can be chained. -/
structure StrictlyOrdersGroups (R : Type) [Record R] : Prop where
  decides : ∀ a b : Bucket R, a.key ≠ b.key → (a.compare b = .lt ↔ ¬ b.compare a = .lt)
  chains : ∀ a b c : Bucket R, a.compare b = .lt → b.compare c = .lt → a.compare c = .lt

theorem strictlyOrdersGroups : StrictlyOrdersGroups R where
  decides a b different := by
    have turned : b.compare a = (a.compare b).swap := OrientedCmp.eq_swap
    rw [turned]
    cases way : a.compare b with
    | lt => simp
    | eq => exact absurd (Bucket.key_eq_of_compare way) different
    | gt => simp
  chains _ _ _ := TransCmp.lt_trans

/-- Groups are strictly ordered, and lists of the same records have the same groups in the same order
with the same numbers. -/
theorem groups_stand_alike_for_any_arrangement :
    StrictlyOrdersGroups R ∧
      ∀ (groupBy : GroupBy) (now : Instant) (records others : List R), records.Perm others →
        (groupRecords groupBy now records).map Bucket.figures =
          (groupRecords groupBy now others).map Bucket.figures := by
  refine ⟨strictlyOrdersGroups, ?_⟩
  intro groupBy now records others moved
  apply (figures_perm groupBy now moved).eq_of_pairwise ?_ (precedes_figures groupBy now records)
    (precedes_figures groupBy now others)
  intro a b _ _ first second
  exact absurd second first.asymm

/-- Of three domains two have one sender each, so that only their names tell them apart. -/
def sendersOfThreeDomains : List Email :=
  [messageFrom 1 "ann@west.example", messageFrom 2 "bob@north.example",
    messageFrom 3 "cid@east.example", messageFrom 4 "dan@north.example"]

/-- The groups are opened in another order when the senders are reversed, and stand as before. -/
theorem domains_stand_alike_for_reversed_senders :
    let turned := sendersOfThreeDomains.reverse
    sendersOfThreeDomains.Perm turned ∧
      (collect .domain .earliest sendersOfThreeDomains).map Bucket.figures =
        [⟨"west.example", 1, 0, 1⟩, ⟨"north.example", 2, 0, 2⟩, ⟨"east.example", 1, 0, 1⟩] ∧
      (collect .domain .earliest turned).map Bucket.figures =
        [⟨"north.example", 2, 0, 2⟩, ⟨"east.example", 1, 0, 1⟩, ⟨"west.example", 1, 0, 1⟩] ∧
      (groupRecords .domain .earliest sendersOfThreeDomains).map Bucket.figures =
        (groupRecords .domain .earliest turned).map Bucket.figures := by
  intro turned
  have moved : sendersOfThreeDomains.Perm turned :=
    (List.reverse_perm sendersOfThreeDomains).symm
  refine ⟨moved, by decide +kernel, by decide +kernel, ?_⟩
  exact groups_stand_alike_for_any_arrangement.2 .domain .earliest _ _ moved

end AdaptiveView

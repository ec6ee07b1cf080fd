import AdaptiveView.Email
import AdaptiveView.Proofs.Grouping.Partition

/-!
# Groups by mail domain

Records with the same domain, in which case does not count, share a group, and so do those without a
domain.  The key of the latter is `unknown`, which a domain can spell too: then both kinds are in one
group, which is called after whichever record comes first.  A list that does not hold both kinds is
grouped as the names of its groups say.
-/

set_option autoImplicit false

namespace AdaptiveView

open AdaptiveView.Calendar

variable {R : Type} [Record R]

/-! ## Who shares a group -/

def TogetherIn (groups : List (Bucket R)) (a b : R) : Prop :=
  ∃ bucket ∈ groups, a ∈ bucket.members ∧ b ∈ bucket.members

theorem togetherIn_iff {groupBy : GroupBy} {now : Instant} {records : List R} {a b : R}
    (presentA : a ∈ records) (presentB : b ∈ records) :
    TogetherIn (groupRecords groupBy now records) a b ↔
      (GroupName.of groupBy now a).key = (GroupName.of groupBy now b).key := by
  constructor
  · rintro ⟨bucket, among, inA, inB⟩
    have keyA := ((mem_members_iff among).mp inA).2
    have keyB := ((mem_members_iff among).mp inB).2
    rw [keyA, keyB]
  · intro same
    have keyed : (GroupName.of groupBy now a).key ∈
        (groupRecords groupBy now records).map Bucket.key :=
      mem_keys_groupRecords.mpr (Or.inr ⟨a, presentA, rfl⟩)
    obtain ⟨bucket, among, key⟩ := List.mem_map.mp keyed
    exact ⟨bucket, among, (mem_members_iff among).mpr ⟨presentA, key.symm⟩,
      (mem_members_iff among).mpr ⟨presentB, same.symm.trans key.symm⟩⟩

/-! ## What a group is called -/

def Bucket.name (bucket : Bucket R) : GroupName :=
  ⟨bucket.key, bucket.label⟩

/-- The group has a first member and is called as that one is classified. -/
def NamedAfterFirst (nameOf : R → GroupName) (bucket : Bucket R) : Prop :=
  ∃ first, bucket.members.head? = some first ∧ bucket.name = nameOf first

theorem NamedAfterFirst.add {nameOf : R → GroupName} {bucket : Bucket R}
    (named : NamedAfterFirst nameOf bucket) (record : R) :
    NamedAfterFirst nameOf (bucket.add record) := by
  obtain ⟨first, head, name⟩ := named
  refine ⟨first, ?_, name⟩
  simp only [Bucket.add, List.head?_append, head, Option.some_or]

theorem namedAfterFirst_collect {groupBy : GroupBy} (grouped : groupBy ≠ .none) (now : Instant)
    (records : List R) :
    ∀ bucket ∈ collect groupBy now records,
      NamedAfterFirst (GroupName.of groupBy now) bucket := by
  apply forall_foldl_place
  · intro record
    exact ⟨record, rfl, rfl⟩
  · intro record bucket named
    exact named.add record
  · rw [if_neg grouped]
    exact List.forall_mem_nil _

/-- A group is called after the record of its key that comes first in the list. -/
theorem name_of_first {groupBy : GroupBy} (grouped : groupBy ≠ .none) {now : Instant}
    {records : List R} {bucket : Bucket R} (among : bucket ∈ groupRecords groupBy now records) :
    ∃ first, records.find? (fun record => (GroupName.of groupBy now record).key = bucket.key) =
        some first ∧
      bucket.name = GroupName.of groupBy now first := by
  obtain ⟨collected, amongCollected, rfl⟩ := mem_groupRecords.mp among
  obtain ⟨first, head, name⟩ := namedAfterFirst_collect grouped now records _ amongCollected
  rw [members_of_mem_collect amongCollected, List.head?_filter] at head
  exact ⟨first, head, name⟩

/-! ## Domains -/

/-- The domain of a record as it is compared. -/
def comparedDomain? (record : R) : Option String :=
  (Record.domain? record).map Text.lowercase

/-- Neither has a domain, or both have one and these are equal in lower case. -/
def SameDomain (a b : R) : Prop :=
  comparedDomain? a = comparedDomain? b

/-- The key and the label of a compared domain. -/
def domainName : Option String → GroupName
  | some domain => ⟨domain, domainTitle domain⟩
  | none => ⟨"unknown", "Unknown domain"⟩

theorem of_domain (now : Instant) (record : R) :
    GroupName.of .domain now record = domainName (comparedDomain? record) := by
  unfold comparedDomain?
  change GroupName.ofDomain (Record.domain? record) = _
  cases Record.domain? record <;> rfl

theorem key_domainName_eq_iff {one other : Option String} :
    (domainName one).key = (domainName other).key ↔
      one = other ∨ (one = none ∧ other = some "unknown") ∨
        (one = some "unknown" ∧ other = none) := by
  cases one <;> cases other <;> simp [domainName, eq_comm]

/-- Some record has no domain and the domain of another spells the key of those. -/
def HasBothUnknowns (records : List R) : Prop :=
  (∃ record ∈ records, comparedDomain? record = none) ∧
    ∃ record ∈ records, comparedDomain? record = some "unknown"

/-- The group that a record without a domain shares with one whose domain is spelled `unknown`. -/
theorem togetherIn_of_unknowns (now : Instant) {records : List R} {a b : R}
    (presentA : a ∈ records) (presentB : b ∈ records) (hostless : comparedDomain? a = none)
    (spelled : comparedDomain? b = some "unknown") :
    TogetherIn (groupRecords .domain now records) a b := by
  rw [togetherIn_iff presentA presentB, of_domain, of_domain, hostless, spelled]
  rfl

theorem sameDomain_of_key {now : Instant} {records : List R} (apart : ¬ HasBothUnknowns records)
    {a b : R} (presentA : a ∈ records) (presentB : b ∈ records)
    (same : (GroupName.of .domain now a).key = (GroupName.of .domain now b).key) :
    SameDomain a b := by
  rw [of_domain, of_domain, key_domainName_eq_iff] at same
  rcases same with same | ⟨hostless, spelled⟩ | ⟨spelled, hostless⟩
  · exact same
  · exact absurd ⟨⟨a, presentA, hostless⟩, b, presentB, spelled⟩ apart
  · exact absurd ⟨⟨b, presentB, hostless⟩, a, presentA, spelled⟩ apart

/-- Sharing a group is having the same domain, unless a list holds both kinds of unknown. -/
theorem shared_by_domain_iff (now : Instant) (records : List R) :
    (∀ a ∈ records, ∀ b ∈ records,
        TogetherIn (groupRecords .domain now records) a b ↔ SameDomain a b) ↔
      ¬ HasBothUnknowns records := by
  constructor
  · rintro shared ⟨⟨a, presentA, hostless⟩, b, presentB, spelled⟩
    have together := togetherIn_of_unknowns now presentA presentB hostless spelled
    have same : comparedDomain? a = comparedDomain? b :=
      (shared a presentA b presentB).mp together
    rw [hostless, spelled] at same
    cases same
  · intro apart a presentA b presentB
    rw [togetherIn_iff presentA presentB]
    constructor
    · exact sameDomain_of_key apart presentA presentB
    · intro same
      rw [of_domain, of_domain, same]

/-- Each group is called as each of its members is classified, unless a list holds both kinds. -/
theorem named_by_domain_iff (now : Instant) (records : List R) :
    (∀ bucket ∈ groupRecords .domain now records, ∀ member ∈ bucket.members,
        bucket.name = GroupName.of .domain now member) ↔
      ¬ HasBothUnknowns records := by
  constructor
  · rintro named ⟨⟨a, presentA, hostless⟩, b, presentB, spelled⟩
    obtain ⟨bucket, among, inA, inB⟩ :=
      togetherIn_of_unknowns now presentA presentB hostless spelled
    have label := (named bucket among a inA).symm.trans (named bucket among b inB)
    rw [of_domain, of_domain, hostless, spelled] at label
    exact absurd label (by decide)
  · intro apart bucket among member isMember
    obtain ⟨first, found, name⟩ := name_of_first (by decide) among
    obtain ⟨present, key⟩ := (mem_members_iff among).mp isMember
    have presentFirst : first ∈ records := List.mem_of_find?_eq_some found
    have keyFirst : (GroupName.of .domain now first).key = bucket.key :=
      by simpa using List.find?_some found
    have same : SameDomain first member :=
      sameDomain_of_key apart presentFirst present (keyFirst.trans key.symm)
    rw [name, of_domain, of_domain, same]

/-- A list is grouped by domain as its groups are called, unless it holds both a record without a
domain and one whose domain is `unknown`.  In any case a group is called after its first record. -/
theorem domain_groups_mean_domains_iff (now : Instant) (records : List R) :
    let groups := groupRecords .domain now records
    ((∀ a ∈ records, ∀ b ∈ records, TogetherIn groups a b ↔ SameDomain a b) ↔
        ¬ HasBothUnknowns records) ∧
      ((∀ bucket ∈ groups, ∀ member ∈ bucket.members,
          bucket.name = GroupName.of .domain now member) ↔ ¬ HasBothUnknowns records) ∧
      ∀ bucket ∈ groups, ∃ first,
        records.find? (fun record => (GroupName.of .domain now record).key = bucket.key) =
            some first ∧
          bucket.name = GroupName.of .domain now first := by
  intro groups
  refine ⟨shared_by_domain_iff now records, named_by_domain_iff now records, ?_⟩
  intro bucket among
  exact name_of_first (by decide) among

/-! ## One group for two kinds of senders -/

def messageFrom (id : Nat) (address : String) : Email where
  id
  accountUid := "a"
  subject := "Undelivered"
  fromAddress := address
  fromName := none
  snippet := none
  isRead := false
  isStarred := false
  isArchived := false
  hasAttachments := false
  sentAt := none
  sizeBytes := none

/-- The sender has no domain. -/
def hostlessMessage : Email :=
  messageFrom 1 "mailer-daemon"

def spelledMessage : Email :=
  messageFrom 2 "postmaster@Unknown"

/-- A sender without a domain and one at the domain `unknown` are in one group, whose label says of one
of them what is not so; which of them hangs on their order. -/
theorem unknown_domain_joins_hostless :
    let groups := groupRecords .domain .earliest [hostlessMessage, spelledMessage]
    let turned := groupRecords .domain .earliest [spelledMessage, hostlessMessage]
    ¬ SameDomain hostlessMessage spelledMessage ∧
      TogetherIn groups hostlessMessage spelledMessage ∧
      groups.map Bucket.name = [⟨"unknown", "Unknown domain"⟩] ∧
      turned.map Bucket.name = [⟨"unknown", "@unknown"⟩] := by
  have hostless : comparedDomain? hostlessMessage = none := by decide +kernel
  have spelled : comparedDomain? spelledMessage = some "unknown" := by decide +kernel
  refine ⟨?_, ?_, ?_, ?_⟩
  · rw [SameDomain, hostless, spelled]
    exact (Option.some_ne_none "unknown").symm
  · exact togetherIn_of_unknowns .earliest (by simp) (by simp) hostless spelled
  · decide +kernel
  · decide +kernel

end AdaptiveView

import AdaptiveView.Address
import AdaptiveView.Sorting

/-!
# Grouping

Records are put into groups by one of their classifications, by their mail domain or by how long ago
they were last active.  Groups with errors come first, then larger ones, then by key; the members of
a group are in the order of their primary text.
-/

set_option autoImplicit false

namespace AdaptiveView

open AdaptiveView.Calendar

inductive GroupBy where
  | none
  | status
  | category
  | secondary
  | domain
  | usage
  deriving DecidableEq, Repr

/-- How recently a record was last active. -/
inductive Usage where
  | daily
  | weekly
  | monthly
  | rarely
  deriving DecidableEq, Repr

def Usage.key : Usage → String
  | .daily => "daily"
  | .weekly => "weekly"
  | .monthly => "monthly"
  | .rarely => "rarely"

def Usage.label : Usage → String
  | .daily => "Used daily"
  | .weekly => "Used weekly"
  | .monthly => "Used monthly"
  | .rarely => "Rarely used"

instance : Classifier Usage := ⟨Usage.key, Usage.label⟩

/-- By the whole days since the last activity; no activity at all is rare use. -/
def Usage.since (last : Option Instant) (now : Instant) : Usage :=
  match last with
  | Option.none => .rarely
  | some last =>
      let days := last.wholeDaysBetween now
      if days ≤ 1 then .daily
      else if days ≤ 7 then .weekly
      else if days ≤ 30 then .monthly
      else .rarely

structure GroupName where
  key : String
  label : String
  deriving DecidableEq

def GroupName.ofClassifier {C : Type} [Classifier C] (value : C) : GroupName :=
  ⟨Classifier.key value, Classifier.label value⟩

/-- The group of a mail domain, in which case does not count. -/
def GroupName.ofDomain : Option String → GroupName
  | some domain =>
      let domain := Text.lowercase domain
      ⟨domain, domainTitle domain⟩
  | Option.none => ⟨"unknown", "Unknown domain"⟩

variable {R : Type} [Record R]

/-- The one group of an ungrouped collection. -/
def GroupName.everything (R : Type) [Record R] : GroupName :=
  ⟨"all", Record.collectionLabel R⟩

def GroupName.of (groupBy : GroupBy) (now : Instant) (record : R) : GroupName :=
  match groupBy with
  | .none => .everything R
  | .status => .ofClassifier (Record.status record)
  | .category => .ofClassifier (Record.category record)
  | .secondary => .ofClassifier (Record.secondary record)
  | .domain => .ofDomain (Record.domain? record)
  | .usage => .ofClassifier (Usage.since (Record.lastActivity? record) now)

structure Bucket (R : Type) where
  key : String
  label : String
  members : List R
  errorCount : Nat
  activeCount : Nat

def Bucket.size (bucket : Bucket R) : Nat :=
  bucket.members.length

def Bucket.hasErrors (bucket : Bucket R) : Bool :=
  0 < bucket.errorCount

def Bucket.empty (name : GroupName) : Bucket R :=
  ⟨name.key, name.label, [], 0, 0⟩

/-- One more member at the end. -/
def Bucket.add (bucket : Bucket R) (record : R) : Bucket R :=
  { bucket with
    members := bucket.members ++ [record]
    errorCount := bucket.errorCount + if Record.isError record then 1 else 0
    activeCount := bucket.activeCount + if Record.isActive record then 1 else 0 }

/-- Puts a record into the group of its key, which is new at the end if there is none yet. -/
def place (name : GroupName) (record : R) : List (Bucket R) → List (Bucket R)
  | [] => [(Bucket.empty name).add record]
  | bucket :: rest =>
      if bucket.key = name.key then bucket.add record :: rest
      else bucket :: place name record rest

/-- Groups with more errors first, then larger ones, then by key. -/
def Bucket.compare (a b : Bucket R) : Ordering :=
  (Ord.compare b.errorCount a.errorCount).then <|
    (Ord.compare b.size a.size).then (Ord.compare a.key b.key)

def Bucket.sortMembers (bucket : Bucket R) : Bucket R :=
  { bucket with
    members := bucket.members.mergeSort fun a b =>
      (textOrder (Record.primaryText a) (Record.primaryText b)).isLE }

/-- The groups in the order in which their first members stand.  An ungrouped collection has its
one group even without a record. -/
def collect (groupBy : GroupBy) (now : Instant) (records : List R) : List (Bucket R) :=
  let start := if groupBy = .none then [Bucket.empty (.everything R)] else []
  records.foldl (fun buckets record => place (.of groupBy now record) record buckets) start

/-- The groups of the records at the time `now`, in order. -/
def groupRecords (groupBy : GroupBy) (now : Instant) (records : List R) : List (Bucket R) :=
  ((collect groupBy now records).map Bucket.sortMembers).mergeSort fun a b => (a.compare b).isLE

end AdaptiveView

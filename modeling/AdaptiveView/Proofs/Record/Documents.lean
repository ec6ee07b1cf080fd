import AdaptiveView.Listing
import AdaptiveView.Proofs.Calendar.Written
import AdaptiveView.Proofs.Json.Fields
import AdaptiveView.Proofs.Json.Rendered

/-!
# Records in documents

A record that is written to a document is read back as itself, alone and among others.  Where fields
are missing from the document that need not be there, they have their defaults, and the other fields
are as they were.
-/

set_option autoImplicit false

namespace AdaptiveView

open AdaptiveView.Calendar AdaptiveView.Decimal AdaptiveView.Json

/-! ## Data of a field -/

theorem takeInstant_instantValue (t : Instant) : takeInstant (instantValue t).toNode = .ok t := by
  simp only [takeInstant, instantValue, Value.toNode, takeTextAs, bind, Except.bind,
    t.ofText?_text, pure, Except.pure]

theorem takeOptional_instant (o : Option Instant) :
    takeOptional takeInstant (Value.optional instantValue o).toNode = .ok o := by
  apply takeOptional_optional
  intro t
  exact ⟨by simp [instantValue, Value.toNode], takeInstant_instantValue t⟩

theorem takeOptional_text (o : Option String) :
    takeOptional takeText (Value.optional .text o).toNode = .ok o := by
  apply takeOptional_optional
  intro s
  exact ⟨by simp [Value.toNode], rfl⟩

theorem takeOptional_count (o : Option Nat) :
    takeOptional takeCount (Value.optional .count o).toNode = .ok o := by
  apply takeOptional_optional
  intro n
  exact ⟨by simp [Value.count, Value.toNode], rfl⟩

theorem legible_optionalText (o : Option String) : (Value.optional .text o).Legible :=
  Value.legible_optional fun s _ => Value.legible_text s

theorem legible_optionalInstant (o : Option Instant) : (Value.optional instantValue o).Legible :=
  Value.legible_optional fun t _ => Value.legible_text t.text

/-- A count that is missing or fits into 64 bits. -/
def CountFits (o : Option Nat) : Prop :=
  ∀ n, o = some n → n < countLimit

theorem CountFits.legible {o : Option Nat} (fits : CountFits o) :
    (Value.optional .count o).Legible :=
  Value.legible_optional fun n some => Value.legible_count (fits n some)

/-! ## Accounts -/

section
variable (account : Account) (provider status : String) (gone : String → Bool)

/-- The members of an account whose provider and status are given as texts. -/
def Account.members : List (String × Value) :=
  [("uid", .text account.uid), ("email", .text account.email), ("provider", .text provider),
   ("protocol", .text account.protocol), ("status", .text status),
   ("sync_enabled", .bool account.syncEnabled),
   ("last_sync_at", Value.optional instantValue account.lastSyncAt),
   ("last_sync_status", Value.optional .text account.lastSyncStatus),
   ("last_sync_error", Value.optional .text account.lastSyncError),
   ("total_emails", Value.optional Value.count account.totalEmails),
   ("unread_count", Value.optional Value.count account.unreadCount),
   ("created_at", Value.optional instantValue account.createdAt)]

theorem Account.given_members : shape.Given (account.members provider status) where
  once := by
    simp only [members, List.map_cons, List.map_nil]
    decide
  fits := by
    simp only [members, List.forall_mem_cons]
    refine ⟨⟨_, rfl, Field.check_of rfl⟩, ⟨_, rfl, Field.check_of rfl⟩,
      ⟨_, rfl, Field.check_of rfl⟩, ⟨_, rfl, Field.check_of rfl⟩, ⟨_, rfl, Field.check_of rfl⟩,
      ⟨_, rfl, Field.check_of rfl⟩, ⟨_, rfl, Field.check_of (takeOptional_instant _)⟩,
      ⟨_, rfl, Field.check_of (takeOptional_text _)⟩,
      ⟨_, rfl, Field.check_of (takeOptional_text _)⟩,
      ⟨_, rfl, Field.check_of (takeOptional_count _)⟩,
      ⟨_, rfl, Field.check_of (takeOptional_count _)⟩,
      ⟨_, rfl, Field.check_of (takeOptional_instant _)⟩, ?_⟩
    simp

/-- The account that is left when fields are gone. -/
def Account.without : Account where
  uid := account.uid
  email := account.email
  provider := if gone "provider" then .unknown else account.provider
  protocol := if gone "protocol" then "" else account.protocol
  status := if gone "status" then .unknown else account.status
  syncEnabled := if gone "sync_enabled" then false else account.syncEnabled
  lastSyncAt := if gone "last_sync_at" then none else account.lastSyncAt
  lastSyncStatus := if gone "last_sync_status" then none else account.lastSyncStatus
  lastSyncError := if gone "last_sync_error" then none else account.lastSyncError
  totalEmails := if gone "total_emails" then none else account.totalEmails
  unreadCount := if gone "unread_count" then none else account.unreadCount
  createdAt := if gone "created_at" then none else account.createdAt

/-- The account with the provider and the status that the texts stand for. -/
def Account.classified : Account :=
  { account with provider := .ofText provider, status := .ofText status }

theorem Account.classified_keys :
    account.classified account.provider.key account.status.key = account := by
  simp only [classified, Provider.ofText_key, AccountStatus.ofText_key]

theorem Account.take_members (uid : gone "uid" = false) (email : gone "email" = false) :
    Account.take ((Value.object (account.members provider status)).without gone).toNode =
      .ok ((account.classified provider status).without gone) := by
  refine bind_ok (shape.take_without (account.given_members provider status) gone) ?_
  refine bind_ok (required_leftOf rfl rfl uid) ?_
  refine bind_ok (required_leftOf rfl rfl email) ?_
  refine bind_ok (getD_leftOf _ rfl rfl) ?_
  refine bind_ok (getD_leftOf _ rfl rfl) ?_
  refine bind_ok (getD_leftOf _ rfl rfl) ?_
  refine bind_ok (getD_leftOf _ rfl rfl) ?_
  refine bind_ok (getD_leftOf _ rfl (takeOptional_instant _)) ?_
  refine bind_ok (getD_leftOf _ rfl (takeOptional_text _)) ?_
  refine bind_ok (getD_leftOf _ rfl (takeOptional_text _)) ?_
  refine bind_ok (getD_leftOf _ rfl (takeOptional_count _)) ?_
  refine bind_ok (getD_leftOf _ rfl (takeOptional_count _)) ?_
  refine bind_ok (getD_leftOf _ rfl (takeOptional_instant _)) ?_
  simp only [without, classified, pure, Except.pure]

def Account.Fits : Prop :=
  CountFits account.totalEmails ∧ CountFits account.unreadCount

theorem Account.legible_members {account : Account} (fits : account.Fits) :
    ∀ member ∈ account.members provider status, member.2.Legible := by
  obtain ⟨total, unread⟩ := fits
  simp only [members, List.forall_mem_cons]
  refine ⟨trivial, trivial, trivial, trivial, trivial, trivial, legible_optionalInstant _,
    legible_optionalText _, legible_optionalText _, total.legible, unread.legible,
    legible_optionalInstant _, ?_⟩
  simp

end

/-! ## Messages -/

/-- The message that is left when fields are gone. -/
def Email.without (email : Email) (gone : String → Bool) : Email where
  id := email.id
  accountUid := if gone "account_uid" then "" else email.accountUid
  subject := if gone "subject" then "" else email.subject
  fromAddress := if gone "from_address" then "" else email.fromAddress
  fromName := if gone "from_name" then none else email.fromName
  snippet := if gone "snippet" then none else email.snippet
  isRead := if gone "is_read" then false else email.isRead
  isStarred := if gone "is_starred" then false else email.isStarred
  isArchived := if gone "is_archived" then false else email.isArchived
  hasAttachments := if gone "has_attachments" then false else email.hasAttachments
  sentAt := if gone "sent_at" then none else email.sentAt
  sizeBytes := if gone "size_bytes" then none else email.sizeBytes

def Email.members (email : Email) : List (String × Value) :=
  [("id", .count email.id), ("account_uid", .text email.accountUid),
   ("subject", .text email.subject), ("from_address", .text email.fromAddress),
   ("from_name", Value.optional .text email.fromName),
   ("snippet", Value.optional .text email.snippet), ("is_read", .bool email.isRead),
   ("is_starred", .bool email.isStarred), ("is_archived", .bool email.isArchived),
   ("has_attachments", .bool email.hasAttachments),
   ("sent_at", Value.optional instantValue email.sentAt),
   ("size_bytes", Value.optional Value.count email.sizeBytes)]

theorem Email.given_members (email : Email) : shape.Given email.members where
  once := by
    simp only [members, List.map_cons, List.map_nil]
    decide
  fits := by
    simp only [members, List.forall_mem_cons]
    refine ⟨⟨_, rfl, Field.check_of rfl⟩, ⟨_, rfl, Field.check_of rfl⟩,
      ⟨_, rfl, Field.check_of rfl⟩, ⟨_, rfl, Field.check_of rfl⟩,
      ⟨_, rfl, Field.check_of (takeOptional_text _)⟩,
      ⟨_, rfl, Field.check_of (takeOptional_text _)⟩, ⟨_, rfl, Field.check_of rfl⟩,
      ⟨_, rfl, Field.check_of rfl⟩, ⟨_, rfl, Field.check_of rfl⟩, ⟨_, rfl, Field.check_of rfl⟩,
      ⟨_, rfl, Field.check_of (takeOptional_instant _)⟩,
      ⟨_, rfl, Field.check_of (takeOptional_count _)⟩, ?_⟩
    simp

theorem Email.take_members (email : Email) (gone : String → Bool) (id : gone "id" = false) :
    Email.take (email.toValue.without gone).toNode = .ok (email.without gone) := by
  refine bind_ok (shape.take_without email.given_members gone) ?_
  refine bind_ok (required_leftOf rfl rfl id) ?_
  refine bind_ok (getD_leftOf _ rfl rfl) ?_
  refine bind_ok (getD_leftOf _ rfl rfl) ?_
  refine bind_ok (getD_leftOf _ rfl rfl) ?_
  refine bind_ok (getD_leftOf _ rfl (takeOptional_text _)) ?_
  refine bind_ok (getD_leftOf _ rfl (takeOptional_text _)) ?_
  refine bind_ok (getD_leftOf _ rfl rfl) ?_
  refine bind_ok (getD_leftOf _ rfl rfl) ?_
  refine bind_ok (getD_leftOf _ rfl rfl) ?_
  refine bind_ok (getD_leftOf _ rfl rfl) ?_
  refine bind_ok (getD_leftOf _ rfl (takeOptional_instant _)) ?_
  refine bind_ok (getD_leftOf _ rfl (takeOptional_count _)) ?_
  simp only [without, pure, Except.pure]

def Email.Fits (email : Email) : Prop :=
  email.id < countLimit ∧ CountFits email.sizeBytes

theorem Email.legible_members {email : Email} (fits : email.Fits) :
    ∀ member ∈ email.members, member.2.Legible := by
  obtain ⟨id, size⟩ := fits
  simp only [members, List.forall_mem_cons]
  refine ⟨Value.legible_count id, trivial, trivial, trivial, legible_optionalText _,
    legible_optionalText _, trivial, trivial, trivial, trivial, legible_optionalInstant _,
    size.legible, ?_⟩
  simp

/-! ## Whole records and parts of them -/

/-- What a document must give of a record, and what is read when other fields are gone. -/
class Documented (R : Type) [Record R] [Listing R] where
  needed : List String
  without : R → (String → Bool) → R
  /-- Every count fits into 64 bits. -/
  Fits : R → Prop
  without_nothing : ∀ r, without r (fun _ => false) = r
  take_without : ∀ r gone, (∀ name ∈ needed, gone name = false) →
    Listing.take ((Listing.toValue r).without gone).toNode = .ok (without r gone)
  legible : ∀ r gone, Fits r → ((Listing.toValue r).without gone).Legible

instance : Documented Account where
  needed := ["uid", "email"]
  without := Account.without
  Fits := Account.Fits
  without_nothing _ := rfl
  take_without account gone kept := by
    have read := account.take_members account.provider.key account.status.key gone
      (kept "uid" (by decide)) (kept "email" (by decide))
    rwa [account.classified_keys] at read
  legible _ gone fits := legible_without (Account.legible_members _ _ fits) gone

instance : Documented Email where
  needed := ["id"]
  without := Email.without
  Fits := Email.Fits
  without_nothing _ := rfl
  take_without email gone kept := email.take_members gone (kept "id" (by decide))
  legible _ gone fits := legible_without (Email.legible_members fits) gone

section
variable (R : Type) [Record R] [Listing R] [Documented R]

/-- A record and the fields that are missing from its document. -/
structure Remnant where
  record : R
  gone : String → Bool
  fits : Documented.Fits record
  spares : ∀ name ∈ Documented.needed R, gone name = false

variable {R}

def Remnant.value (remnant : Remnant R) : Value :=
  (Listing.toValue remnant.record).without remnant.gone

/-- The record with the missing fields at their defaults. -/
def Remnant.read (remnant : Remnant R) : R :=
  Documented.without remnant.record remnant.gone

def Remnant.whole (r : R) (fits : Documented.Fits r) : Remnant R :=
  ⟨r, fun _ => false, fits, fun _ _ => rfl⟩

theorem Remnant.value_whole (r : R) (fits : Documented.Fits r) :
    (whole r fits).value = Listing.toValue r := by
  exact Value.without_nothing _

theorem Remnant.read_whole (r : R) (fits : Documented.Fits r) : (whole r fits).read = r :=
  Documented.without_nothing r

theorem Remnant.taken (remnant : Remnant R) {s : String} (written : remnant.value.WrittenAs s) :
    takeDocument Listing.take s = .ok remnant.read :=
  takeDocument_written written (Documented.legible _ _ remnant.fits)
    (Documented.take_without _ _ remnant.spares)

theorem takeItems_remnants (remnants : List (Remnant R)) :
    takeItems Listing.take (itemsOf (remnants.map Remnant.value)) =
      .ok (remnants.map Remnant.read) := by
  induction remnants with
  | nil => rfl
  | cons remnant remnants later =>
      rw [List.map_cons, itemsOf, takeItems]
      refine bind_ok (Documented.take_without _ _ remnant.spares) ?_
      refine bind_ok later ?_
      rfl

theorem Remnant.taken_all (remnants : List (Remnant R)) {s : String}
    (written : (Value.array (remnants.map value)).WrittenAs s) :
    takeDocument (takeRecords R) s = .ok (remnants.map read) := by
  apply takeDocument_written written
  · rw [Value.Legible, legibleItems_iff]
    intro v among
    obtain ⟨remnant, -, rfl⟩ := List.mem_map.mp among
    exact Documented.legible _ _ remnant.fits
  · exact takeItems_remnants remnants

variable (R)

/-- Records are read as they were written, alone and in arrays, and also in part. -/
structure SurvivesDocuments : Prop where
  alone : ∀ (r : R) (s : String), Documented.Fits r → (Listing.toValue r).WrittenAs s →
    takeDocument Listing.take s = .ok r
  together : ∀ (rs : List R) (s : String), (∀ r ∈ rs, Documented.Fits r) →
    (Value.array (rs.map Listing.toValue)).WrittenAs s → takeDocument (takeRecords R) s = .ok rs
  inPart : ∀ (remnant : Remnant R) (s : String), remnant.value.WrittenAs s →
    takeDocument Listing.take s = .ok remnant.read
  partsTogether : ∀ (remnants : List (Remnant R)) (s : String),
    (Value.array (remnants.map Remnant.value)).WrittenAs s →
      takeDocument (takeRecords R) s = .ok (remnants.map Remnant.read)

theorem survivesDocuments : SurvivesDocuments R where
  alone r s fits written := by
    have taken := (Remnant.whole r fits).taken (s := s)
    rw [Remnant.value_whole, Remnant.read_whole] at taken
    exact taken written
  together rs s fits written := by
    have taken := Remnant.taken_all (s := s) (rs.pmap Remnant.whole fits)
    simp only [List.map_pmap, Remnant.value_whole, Remnant.read_whole, List.pmap_eq_map,
      List.map_id'] at taken
    exact taken written
  inPart remnant _ written := remnant.taken written
  partsTogether remnants _ written := Remnant.taken_all remnants written

end

/-! ## Free texts -/

/-- A classification read from a free text: blanks around a key and capitals in it do not matter, and
any other text stands for the unknown value. -/
structure NamedFreely {C : Type} (key : C → String) (unknown : C) (ofText : String → C) : Prop where
  named : ∀ text c, Text.asciiLowercase (Text.trim text) = key c → ofText text = c
  unnamed : ∀ text, (∀ c, Text.asciiLowercase (Text.trim text) ≠ key c) → ofText text = unknown

theorem namedFreely_of_known {C : Type} {key : C → String} {unknown : C} {ofText : String → C}
    (known : List C)
    (reads : ∀ text, ofText text =
      (known.find? (key · == Text.asciiLowercase (Text.trim text))).getD unknown)
    (finds : ∀ c, (known.find? (key · == key c)).getD unknown = c) :
    NamedFreely key unknown ofText where
  named text c same := by rw [reads, same, finds]
  unnamed text other := by
    rw [reads, List.find?_eq_none.mpr, Option.getD_none]
    intro c _ same
    exact other c (beq_iff_eq.mp same).symm

theorem Provider.namedFreely : NamedFreely Provider.key .unknown Provider.ofText := by
  apply namedFreely_of_known [.gmail, .outlook, .imap, .pop3]
  · intro text
    rfl
  · intro provider
    cases provider <;> rfl

theorem AccountStatus.namedFreely :
    NamedFreely AccountStatus.key .unknown AccountStatus.ofText := by
  apply namedFreely_of_known [.active, .disabled, .error]
  · intro text
    rfl
  · intro status
    cases status <;> rfl

/-- The document of the account with other texts for its provider and its status. -/
def Account.renamedValue (account : Account) (provider status : String) : Value :=
  (account.toValue.within "provider" fun _ => .text provider).within "status" fun _ => .text status

theorem Account.renamedValue_eq (account : Account) (provider status : String) :
    account.renamedValue provider status = .object (account.members provider status) :=
  rfl

/-- The leap second at the end of the last year. -/
def lastLeapSecond : Instant where
  day := ⟨lastYear, 12, 31⟩
  second := 86399
  nano := 1999999999
  dayExists := by decide
  clockTime := by decide

def boundaryAccount : Account where
  uid := "\"\\\u0001"
  email := ""
  provider := .unknown
  protocol := "\n"
  status := .error
  syncEnabled := true
  lastSyncAt := some lastLeapSecond
  lastSyncStatus := none
  lastSyncError := some "null"
  totalEmails := some (countLimit - 1)
  unreadCount := some 0
  createdAt := some .earliest

end AdaptiveView

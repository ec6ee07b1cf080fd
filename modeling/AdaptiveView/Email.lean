import AdaptiveView.Account

/-!
# Messages

The summary of a message for a list, without its body.  Its status, folder and attachment state are
derived from flags.
-/

set_option autoImplicit false

namespace AdaptiveView

open AdaptiveView.Calendar AdaptiveView.Json

inductive ReadState where
  | unread
  | read
  deriving DecidableEq, Repr

def ReadState.key : ReadState → String
  | .unread => "unread"
  | .read => "read"

def ReadState.label : ReadState → String
  | .unread => "Unread"
  | .read => "Read"

instance : Classifier ReadState := ⟨ReadState.key, ReadState.label⟩

def ReadState.variants : List (String × ReadState) :=
  [ReadState.unread, .read].map fun state => (state.key, state)

inductive EmailCategory where
  | inbox
  | starred
  | archived
  deriving DecidableEq, Repr

def EmailCategory.key : EmailCategory → String
  | .inbox => "inbox"
  | .starred => "starred"
  | .archived => "archived"

def EmailCategory.label : EmailCategory → String
  | .inbox => "Inbox"
  | .starred => "Starred"
  | .archived => "Archived"

instance : Classifier EmailCategory := ⟨EmailCategory.key, EmailCategory.label⟩

def EmailCategory.variants : List (String × EmailCategory) :=
  [EmailCategory.inbox, .starred, .archived].map fun category => (category.key, category)

inductive AttachmentState where
  | withAttachments
  | noAttachments
  deriving DecidableEq, Repr

def AttachmentState.key : AttachmentState → String
  | .withAttachments => "with_attachments"
  | .noAttachments => "no_attachments"

def AttachmentState.label : AttachmentState → String
  | .withAttachments => "With attachments"
  | .noAttachments => "Without attachments"

instance : Classifier AttachmentState := ⟨AttachmentState.key, AttachmentState.label⟩

def AttachmentState.variants : List (String × AttachmentState) :=
  [AttachmentState.withAttachments, .noAttachments].map fun state => (state.key, state)

inductive EmailSortField where
  | sentAt
  | subject
  | sender
  | size
  deriving DecidableEq, Repr

structure Email where
  id : Nat
  accountUid : String
  subject : String
  fromAddress : String
  fromName : Option String
  snippet : Option String
  isRead : Bool
  isStarred : Bool
  isArchived : Bool
  hasAttachments : Bool
  sentAt : Option Instant
  sizeBytes : Option Nat
  deriving DecidableEq

/-- The name of the sender, or the address without one. -/
def Email.sender (email : Email) : String :=
  email.fromName.getD email.fromAddress

def Email.readState (email : Email) : ReadState :=
  if email.isRead then .read else .unread

/-- An archived message is no longer among the starred ones. -/
def Email.category (email : Email) : EmailCategory :=
  if email.isArchived then .archived else if email.isStarred then .starred else .inbox

def Email.attachmentState (email : Email) : AttachmentState :=
  if email.hasAttachments then .withAttachments else .noAttachments

instance : Record Email where
  Id := Nat
  Status := ReadState
  Category := EmailCategory
  Secondary := AttachmentState
  SortField := EmailSortField
  collectionLabel := "All messages"
  id := Email.id
  status := Email.readState
  category := Email.category
  secondary := Email.attachmentState
  primaryText := Email.subject
  searchFields email :=
    [email.subject, email.fromAddress] ++ email.fromName.toList ++
      (mailDomain? email.fromAddress).toList
  sortKey email
    | .sentAt => .date email.sentAt
    | .subject => .text email.subject
    | .sender => .text email.sender
    | .size => .count email.sizeBytes
  domain? email := mailDomain? email.fromAddress
  lastActivity? := Email.sentAt
  isError _ := false
  isActive email := !email.isRead
  isDisabled := Email.isArchived
  rowHeight
    | .detailed => 80
    | .compact => 64
    | .minimal => 48

/-! ## In documents -/

def Email.shape : Shape where
  name := "Email"
  fields :=
    [.of "id" takeCount, .of "account_uid" takeText, .of "subject" takeText,
     .of "from_address" takeText, .of "from_name" (takeOptional takeText),
     .of "snippet" (takeOptional takeText), .of "is_read" takeBool, .of "is_starred" takeBool,
     .of "is_archived" takeBool, .of "has_attachments" takeBool,
     .of "sent_at" (takeOptional takeInstant), .of "size_bytes" (takeOptional takeCount)]

/-- A message of which only the identifier must be given. -/
def Email.take : Decoder Email := fun node => do
  let fields ← shape.take node
  return {
    id := ← fields.required "id" takeCount
    accountUid := ← fields.getD "account_uid" takeText ""
    subject := ← fields.getD "subject" takeText ""
    fromAddress := ← fields.getD "from_address" takeText ""
    fromName := ← fields.getD "from_name" (takeOptional takeText) none
    snippet := ← fields.getD "snippet" (takeOptional takeText) none
    isRead := ← fields.getD "is_read" takeBool false
    isStarred := ← fields.getD "is_starred" takeBool false
    isArchived := ← fields.getD "is_archived" takeBool false
    hasAttachments := ← fields.getD "has_attachments" takeBool false
    sentAt := ← fields.getD "sent_at" (takeOptional takeInstant) none
    sizeBytes := ← fields.getD "size_bytes" (takeOptional takeCount) none }

def Email.toValue (email : Email) : Value :=
  .object
    [("id", .count email.id), ("account_uid", .text email.accountUid),
     ("subject", .text email.subject), ("from_address", .text email.fromAddress),
     ("from_name", Value.optional .text email.fromName),
     ("snippet", Value.optional .text email.snippet), ("is_read", .bool email.isRead),
     ("is_starred", .bool email.isStarred), ("is_archived", .bool email.isArchived),
     ("has_attachments", .bool email.hasAttachments),
     ("sent_at", Value.optional instantValue email.sentAt),
     ("size_bytes", Value.optional Value.count email.sizeBytes)]

end AdaptiveView

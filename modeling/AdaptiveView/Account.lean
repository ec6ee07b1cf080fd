import AdaptiveView.Address
import AdaptiveView.Json.Instant
import AdaptiveView.Record
import AdaptiveView.Text.Lowercase

/-!
# Mail accounts

An account with its provider, its status and the outcome of its last synchronisation.  In documents
provider and status are free texts: blanks around them and the case of their letters do not count,
and a text that names nothing known stands for the unknown value.
-/

set_option autoImplicit false

namespace AdaptiveView

open AdaptiveView.Calendar AdaptiveView.Json

inductive AccountStatus where
  | active
  | disabled
  | error
  | unknown
  deriving DecidableEq, Repr

def AccountStatus.key : AccountStatus → String
  | .active => "active"
  | .disabled => "disabled"
  | .error => "error"
  | .unknown => "unknown"

def AccountStatus.label : AccountStatus → String
  | .active => "Active accounts"
  | .disabled => "Disabled accounts"
  | .error => "Accounts with errors"
  | .unknown => "Unknown status"

instance : Classifier AccountStatus := ⟨AccountStatus.key, AccountStatus.label⟩

/-- A free text without blanks around it and without capitals. -/
def plainName (s : String) : String :=
  Text.asciiLowercase (Text.trim s)

def AccountStatus.ofText (s : String) : AccountStatus :=
  ([AccountStatus.active, .disabled, .error].find? (·.key == plainName s)).getD .unknown

def AccountStatus.take : Decoder AccountStatus := fun node =>
  (takeText node).map AccountStatus.ofText

/-- The service that hosts an account. -/
inductive Provider where
  | gmail
  | outlook
  | imap
  | pop3
  | unknown
  deriving DecidableEq, Repr

def Provider.key : Provider → String
  | .gmail => "gmail"
  | .outlook => "outlook"
  | .imap => "imap"
  | .pop3 => "pop3"
  | .unknown => "unknown"

def Provider.label : Provider → String
  | .gmail => "Gmail"
  | .outlook => "Outlook"
  | .imap => "IMAP"
  | .pop3 => "POP3"
  | .unknown => "Other providers"

instance : Classifier Provider := ⟨Provider.key, Provider.label⟩

def Provider.ofText (s : String) : Provider :=
  ([Provider.gmail, .outlook, .imap, .pop3].find? (·.key == plainName s)).getD .unknown

def Provider.take : Decoder Provider := fun node =>
  (takeText node).map Provider.ofText

/-- The outcome of the most recent synchronisation. -/
inductive SyncStatus where
  | success
  | failed
  | running
  | never
  deriving DecidableEq, Repr

def SyncStatus.key : SyncStatus → String
  | .success => "success"
  | .failed => "failed"
  | .running => "running"
  | .never => "never"

def SyncStatus.label : SyncStatus → String
  | .success => "Synced"
  | .failed => "Sync failed"
  | .running => "Syncing"
  | .never => "Never synced"

instance : Classifier SyncStatus := ⟨SyncStatus.key, SyncStatus.label⟩

def SyncStatus.variants : List (String × SyncStatus) :=
  [SyncStatus.success, .failed, .running, .never].map fun status => (status.key, status)

inductive AccountSortField where
  | email
  | provider
  | status
  | unreadCount
  | lastSyncAt
  deriving DecidableEq, Repr

structure Account where
  uid : String
  email : String
  provider : Provider
  protocol : String
  status : AccountStatus
  syncEnabled : Bool
  lastSyncAt : Option Instant
  lastSyncStatus : Option String
  lastSyncError : Option String
  totalEmails : Option Nat
  unreadCount : Option Nat
  createdAt : Option Instant
  deriving DecidableEq

/-- Without a time no synchronisation has happened, whatever its outcome says. -/
def Account.syncStatus (account : Account) : SyncStatus :=
  if account.lastSyncAt.isNone then .never
  else
    match account.lastSyncStatus with
    | some "running" => .running
    | some "success" => .success
    | some "failed" => .failed
    | _ => .never

instance : Record Account where
  Id := String
  Status := AccountStatus
  Category := Provider
  Secondary := SyncStatus
  SortField := AccountSortField
  collectionLabel := "All accounts"
  id := Account.uid
  status := Account.status
  category := Account.provider
  secondary := Account.syncStatus
  primaryText := Account.email
  searchFields account :=
    [account.email, account.provider.key] ++ (mailDomain? account.email).toList
  sortKey account
    | .email => .text account.email
    | .provider => .text account.provider.key
    | .status => .text account.status.key
    | .unreadCount => .count account.unreadCount
    | .lastSyncAt => .date account.lastSyncAt
  domain? account := mailDomain? account.email
  lastActivity? := Account.lastSyncAt
  isError account := account.status == .error
  isActive account := account.status == .active
  isDisabled account := account.status == .disabled
  rowHeight
    | .detailed => 192
    | .compact => 112
    | .minimal => 72

/-! ## In documents -/

def Account.shape : Shape where
  name := "Account"
  fields :=
    [.of "uid" takeText, .of "email" takeText, .of "provider" Provider.take,
     .of "protocol" takeText, .of "status" AccountStatus.take, .of "sync_enabled" takeBool,
     .of "last_sync_at" (takeOptional takeInstant),
     .of "last_sync_status" (takeOptional takeText),
     .of "last_sync_error" (takeOptional takeText),
     .of "total_emails" (takeOptional takeCount), .of "unread_count" (takeOptional takeCount),
     .of "created_at" (takeOptional takeInstant)]

/-- An account of which only the identifier and the address must be given. -/
def Account.take : Decoder Account := fun node => do
  let fields ← shape.take node
  return {
    uid := ← fields.required "uid" takeText
    email := ← fields.required "email" takeText
    provider := ← fields.getD "provider" Provider.take .unknown
    protocol := ← fields.getD "protocol" takeText ""
    status := ← fields.getD "status" AccountStatus.take .unknown
    syncEnabled := ← fields.getD "sync_enabled" takeBool false
    lastSyncAt := ← fields.getD "last_sync_at" (takeOptional takeInstant) none
    lastSyncStatus := ← fields.getD "last_sync_status" (takeOptional takeText) none
    lastSyncError := ← fields.getD "last_sync_error" (takeOptional takeText) none
    totalEmails := ← fields.getD "total_emails" (takeOptional takeCount) none
    unreadCount := ← fields.getD "unread_count" (takeOptional takeCount) none
    createdAt := ← fields.getD "created_at" (takeOptional takeInstant) none }

def Account.toValue (account : Account) : Value :=
  .object
    [("uid", .text account.uid), ("email", .text account.email),
     ("provider", .text account.provider.key), ("protocol", .text account.protocol),
     ("status", .text account.status.key), ("sync_enabled", .bool account.syncEnabled),
     ("last_sync_at", Value.optional instantValue account.lastSyncAt),
     ("last_sync_status", Value.optional .text account.lastSyncStatus),
     ("last_sync_error", Value.optional .text account.lastSyncError),
     ("total_emails", Value.optional Value.count account.totalEmails),
     ("unread_count", Value.optional Value.count account.unreadCount),
     ("created_at", Value.optional instantValue account.createdAt)]

@[simp]
theorem AccountStatus.ofText_key (status : AccountStatus) : ofText status.key = status := by
  cases status <;> decide +kernel

@[simp]
theorem Provider.ofText_key (provider : Provider) : ofText provider.key = provider := by
  cases provider <;> decide +kernel

end AdaptiveView

import AdaptiveView.Email
import AdaptiveView.Sorting

/-!
# The two lists

Accounts and messages each have a screen of their own, with a name under which its preferences are
kept and an order it starts with: accounts by address, messages with the newest first.
-/

set_option autoImplicit false

namespace AdaptiveView

open AdaptiveView.Json

class Listing (R : Type) [Record R] where
  screenName : String
  initialSort : SortState (Record.SortField R)
  take : Decoder R
  toValue : R → Value
  takeId : Decoder (Record.Id R)
  idValue : Record.Id R → Value
  /-- Values of the three classifications in a document. -/
  takeStatus : Decoder (Record.Status R)
  takeCategory : Decoder (Record.Category R)
  takeSecondary : Decoder (Record.Secondary R)
  /-- The fields to sort by, with their names. -/
  sortFields : List (String × Record.SortField R)

instance : Listing Account where
  screenName := "accounts"
  initialSort := .ascending AccountSortField.email
  take := Account.take
  toValue := Account.toValue
  takeId := takeText
  idValue := Value.text
  takeStatus := AccountStatus.take
  takeCategory := Provider.take
  takeSecondary := takeVariant SyncStatus.variants
  sortFields :=
    [("email", .email), ("provider", .provider), ("status", .status),
     ("unread_count", .unreadCount), ("last_sync_at", .lastSyncAt)]

instance : Listing Email where
  screenName := "emails"
  initialSort := ⟨EmailSortField.sentAt, .descending⟩
  take := Email.take
  toValue := Email.toValue
  takeId := takeCount
  idValue := Value.count
  takeStatus := takeVariant ReadState.variants
  takeCategory := takeVariant EmailCategory.variants
  takeSecondary := takeVariant AttachmentState.variants
  sortFields := [("sent_at", .sentAt), ("subject", .subject), ("sender", .sender), ("size", .size)]

def takeRecords (R : Type) [Record R] [Listing R] : Decoder (List R) :=
  takeList Listing.take

def takeIds (R : Type) [Record R] [Listing R] : Decoder (List (Record.Id R)) :=
  takeList (Listing.takeId (R := R))

end AdaptiveView

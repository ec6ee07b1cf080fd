import AdaptiveView.Decimal.Fixed
import AdaptiveView.Email
import AdaptiveView.Screen.Plan

/-!
# Rows as text

A record has one line when it is compact or minimal and several when it is detailed.  The first line
shows whether the row is selected and whether an operation on it is in flight.
-/

set_option autoImplicit false

namespace AdaptiveView

open AdaptiveView.Calendar AdaptiveView.Decimal

def natText (n : Nat) : String :=
  String.ofList (digitsOf n)

/-- Day and time, or a dash for none. -/
def dateText (t : Option Instant) : String :=
  (t.map Instant.shortText).getD "-"

/-- A number of bytes in the largest unit up to megabytes, with one place. -/
def sizeText : Option Nat → String
  | none => "-"
  | some bytes =>
      if bytes < 1024 then natText bytes ++ " B"
      else if bytes < 1024 * 1024 then fixedText 1 (Float.ofNat bytes / 1024) ++ " KB"
      else fixedText 1 (Float.ofNat bytes / (1024 * 1024)) ++ " MB"

class RowText (R : Type) where
  lines : R → Density → List String

/-- A text that is there and not empty. -/
def nonEmpty (s : Option String) : List String :=
  s.toList.filter fun s => !s.isEmpty

def Account.lines (account : Account) : Density → List String
  | .minimal => [account.email ++ "  [" ++ account.status.key ++ "]"]
  | .compact =>
      [account.email ++ "  " ++ account.provider.label ++ "  " ++ account.status.key ++ "  " ++
        natText (account.unreadCount.getD 0) ++ " unread"]
  | .detailed =>
      [account.email ++ "  (" ++ account.provider.label ++ ")",
        "status: " ++ account.status.key ++ "  sync: " ++ account.syncStatus.label ++ " at " ++
          dateText account.lastSyncAt,
        natText (account.unreadCount.getD 0) ++ " unread / " ++
          natText (account.totalEmails.getD 0) ++ " total"] ++
        (nonEmpty account.lastSyncError).map ("error: " ++ ·)

/-- Marks in front of a subject: not yet read, starred. -/
def Email.marks (email : Email) : String :=
  (if email.isRead then "" else "● ") ++ if email.isStarred then "★ " else ""

/-- The mark of a message with attachments. -/
def Email.clip (email : Email) : String :=
  if email.hasAttachments then " 📎" else ""

def Email.lines (email : Email) : Density → List String
  | .minimal => [email.marks ++ email.subject]
  | .compact =>
      [email.marks ++ email.sender ++ " — " ++ email.subject ++ email.clip ++ "  " ++
        dateText email.sentAt]
  | .detailed =>
      [email.marks ++ email.subject ++ email.clip,
        email.sender ++ " <" ++ email.fromAddress ++ ">  " ++ dateText email.sentAt ++ "  " ++
          sizeText email.sizeBytes] ++
        nonEmpty email.snippet

instance : RowText Account := ⟨Account.lines⟩

instance : RowText Email := ⟨Email.lines⟩

/-- The lines of a row; those after the first stand below its text. -/
def Row.lines {R : Type} [RowText R] (row : Row R) : List String :=
  match RowText.lines row.record row.density with
  | [] => []
  | first :: rest =>
      ((if row.selected then "[x] " else "[ ] ") ++ first ++ if row.busy then " …" else "") ::
        rest.map ("    " ++ ·)

end AdaptiveView

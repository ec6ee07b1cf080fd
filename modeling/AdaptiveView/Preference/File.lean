import AdaptiveView.Json.Reader
import AdaptiveView.Preference.Database

/-!
# The file of a database

Between two runs the rows of a database are kept in a file, as one JSON object of texts.  A file
that holds anything else is no database.
-/

set_option autoImplicit false

namespace AdaptiveView

open AdaptiveView.Json

def textMember? : String × Value → Option (String × String)
  | (key, .text value) => some (key, value)
  | _ => none

def Entries.toValue (entries : Entries) : Value :=
  .object (entries.rows.map fun row => (row.1, .text row.2))

def Entries.ofValue? : Value → Option Entries
  | .object members => (members.mapM textMember?).map Entries.mk
  | _ => none

/-- The text that keeps the rows of a database, if it has a table. -/
def Database.fileText? (db : Database) : Option String :=
  db.table.map fun rows => rows.toValue.render

def Database.ofFileText? (file : String) : Option Database :=
  match (Document.ofText file).root.toValue with
  | .ok value => (Entries.ofValue? value).map fun rows => { Database.new with table := some rows }
  | .error _ => none

end AdaptiveView

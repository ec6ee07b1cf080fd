import AdaptiveView.Preference.Entries
import AdaptiveView.Preference.Store

/-!
# The store in a database

Entries in a table with one statement for each operation: a query, an insertion that replaces, and a
deletion that tells how many rows went.  A statement may fail and then changes nothing; which ones
fail is given by their number.  Without its table every statement fails.
-/

set_option autoImplicit false

namespace AdaptiveView

structure Database where
  /-- The rows of the table, if there is one. -/
  table : Option Entries
  feed : ChangeFeed
  /-- How many statements have been given so far. -/
  statements : Nat
  /-- Whether the statement with this number fails for a reason of its own. -/
  fails : Nat → Bool

namespace Database

/-- A database whose statements never fail. -/
def new : Database :=
  ⟨some .empty, .new, 0, fun _ => false⟩

def dropTable (db : Database) : Database :=
  { db with table := none }

/-- Closes the database and opens it again, with a new table if there is none. -/
def reopen (db : Database) : Database :=
  { db with table := some (db.table.getD .empty), feed := .new }

/-- The rows for one statement, and the database after the statement has been counted. -/
def statement (db : Database) : Except StoreError Entries × Database :=
  let counted := { db with statements := db.statements + 1 }
  if db.fails db.statements then (.error .refused, counted)
  else
    match db.table with
    | some rows => (.ok rows, counted)
    | none => (.error .refused, counted)

def select (db : Database) (key : String) : Except StoreError (Option String) × Database :=
  match db.statement with
  | (.ok rows, db) => (.ok (rows.get? key), db)
  | (.error e, db) => (.error e, db)

/-- Inserts a row or replaces the value in it. -/
def upsert (db : Database) (key value : String) : Except StoreError Unit × Database :=
  match db.statement with
  | (.ok rows, db) => (.ok (), { db with table := some (rows.insert key value) })
  | (.error e, db) => (.error e, db)

/-- Deletes the row of a key and counts what was deleted. -/
def delete (db : Database) (key : String) : Except StoreError Nat × Database :=
  match db.statement with
  | (.ok rows, db) =>
      (.ok (if (rows.get? key).isSome then 1 else 0), { db with table := some (rows.erase key) })
  | (.error e, db) => (.error e, db)

instance : PreferenceStore Database where
  read db key :=
    match db.select key with
    | (.ok value, db) => (value, db)
    | (.error _, db) => (none, db)
  write db key value :=
    match db.upsert key value with
    | (.ok (), db) => (.ok (), { db with feed := db.feed.report key (some value) })
    | (.error e, db) => (.error e, db)
  remove db key :=
    match db.delete key with
    | (.ok deleted, db) =>
        (.ok (), if 0 < deleted then { db with feed := db.feed.report key none } else db)
    | (.error e, db) => (.error e, db)
  feed db := db.feed

end Database

end AdaptiveView

import AdaptiveView.CommandLine.Run
import AdaptiveView.Preference.File
import AdaptiveView.Preference.Memory
import AdaptiveView.Screen.Follow
import Std.Time.DateTime.Timestamp

/-!
# The program

Arguments, environment, files and the clock come in here, and output and exit codes go out.  What is
shown for them is worked out elsewhere.
-/

set_option autoImplicit false

namespace AdaptiveView.CommandLine

open AdaptiveView.Calendar AdaptiveView.Json

def fileText (path : String) : IO (Except FileError String) := do
  try
    return .ok (← IO.FS.readFile path)
  catch
    | .noFileOrDirectory .. => return .error .missing
    | e => return .error (.other (toString e))

/-- The files that arguments name, as they are now. -/
def namedFiles (arguments : Arguments) : IO Files := do
  let paths := arguments.snapshot :: arguments.busy.toList
  let texts ← paths.mapM fun path => return (path, ← fileText path)
  return fun path => (texts.lookup path).getD (.error .missing)

def currentInstant : IO Instant := do
  let time ← Std.Time.Timestamp.now
  let nanos := time.toNanosecondsSinceUnixEpoch.toInt.toNat
  return (Instant.ofEpoch? (nanos / nanosPerSecond) (nanos % nanosPerSecond)).getD .earliest

def readEnvironment : IO Environment := do
  let given ← Settings.variableNames.mapM fun name => return (name, ← IO.getEnv name)
  return fun name => (given.lookup name).join

/-- A directory of the user: the absolute path in a variable, or one in the home directory. -/
def userDirectory (name below : String) : IO String := do
  let given := (← IO.getEnv name).filter (·.startsWith "/")
  let home := ((← IO.getEnv "HOME").map (Settings.joinPath · below)).getD "."
  return Settings.joinPath (given.getD home) "mailview"

def readConfig : IO (Settings Float) := do
  let dir ← userDirectory "XDG_CONFIG_HOME" ".config"
  let file ← fileText (Settings.joinPath dir "config.json")
  return Settings.resolve file.toOption (← readEnvironment)

def databasePath (config : Settings Float) : IO String := do
  let dir ← match config.dataDir with
    | some dir => pure dir
    | none => userDirectory "XDG_DATA_HOME" ".local/share"
  IO.FS.createDirAll dir
  return Settings.databaseIn dir

/-- The database under a path, which is new if there is no file. -/
def openDatabase (path : String) : IO (Option Database) := do
  match ← fileText path with
  | .ok file => return Database.ofFileText? file
  | .error .missing => return some .new
  | .error _ => return none

def saveDatabase (path : String) (db : Database) : IO Unit :=
  db.fileText?.forM (IO.FS.writeFile path)

/-- Prints at once, however long the program goes on. -/
def printNow (text : String) : IO Unit := do
  IO.print text
  (← IO.getStdout).flush

def Result.report (result : Result) : IO UInt32 := do
  IO.print result.output
  if let some error := result.error then
    IO.eprintln ("mailview: " ++ error.message)
  return result.exitCode.toUInt32

section
variable {σ : Type} [PreferenceStore σ] {R : Type} [Record R] [Listing R] [RowText R]

/-- What is read again and again, and when it is due next, in milliseconds. -/
structure Watch (R σ : Type) [Record R] where
  arguments : Arguments
  following : Following R Float σ
  refreshDue : Nat
  busyDue : Nat
  keep : σ → IO Unit

/-- Shows the screen after a message and after each change of preferences that follows. -/
def Watch.after (watch : Watch R σ) (message : Message R Float) : IO (Watch R σ) := do
  let first := watch.following.afterMessage message
  let later := first.afterChanges first.pending
  for following in first :: later do
    printNow ("\n" ++ (following.screen.plan (← currentInstant)).text)
  let following := first.caughtUp
  watch.keep following.store
  return { watch with following }

/-- Waits for what is due and shows it.  A file that cannot be read changes nothing. -/
partial def Watch.run (watch : Watch R σ) : IO UInt32 := do
  let due :=
    if watch.arguments.busy.isSome then min watch.refreshDue watch.busyDue else watch.refreshDue
  IO.sleep (due - (← IO.monoMsNow)).toUInt32
  let now ← IO.monoMsNow
  let files ← namedFiles watch.arguments
  let config := watch.following.screen.config
  let mut watch := watch
  if watch.refreshDue ≤ now then
    watch := { watch with refreshDue := now + config.refreshMillis }
    if let .ok records := readFile files watch.arguments.snapshot (takeRecords R) then
      watch ← watch.after (.collectionUpdated records)
  if let some path := watch.arguments.busy then
    if watch.busyDue ≤ now then
      watch := { watch with busyDue := now + config.busyPollMillis }
      if let .ok ids := readFile files path (takeIds R) then
        watch ← watch.after (.busyChanged ids)
  watch.run

end

/-- Shows the records once and then again whenever something changes. -/
def watchRecords {σ : Type} [PreferenceStore σ] (R : Type) [Record R] [Listing R] [RowText R]
    (arguments : Arguments) (config : Settings Float) (store : σ) (keep : σ → IO Unit) :
    IO UInt32 := do
  let (outcome, store) := present arguments R config (← namedFiles arguments) store
  keep store
  match outcome with
  | .error e => (resultOf (.error e)).report
  | .ok screen =>
      printNow (screen.plan (← currentInstant)).text
      let now ← IO.monoMsNow
      let subscription := (PreferenceStore.feed store).subscribe
      Watch.run {
        arguments
        following := ⟨screen, store, subscription⟩
        refreshDue := now + config.refreshMillis
        busyDue := now + config.busyPollMillis
        keep }

/-- A run with a store that is kept by `keep`. -/
def runWith {σ : Type} [PreferenceStore σ] (arguments : Arguments) (config : Settings Float)
    (store : σ) (keep : σ → IO Unit) : IO UInt32 := do
  if arguments.watch then
    match arguments.screen with
    | .accounts => watchRecords Account arguments config store keep
    | .emails => watchRecords Email arguments config store keep
  else
    let files ← namedFiles arguments
    let (outcome, store) := display arguments config files (← currentInstant) store
    keep store
    (resultOf outcome).report

/-- A run with the preference database, or without stored preferences if it cannot be opened. -/
def run (arguments : Arguments) : IO UInt32 := do
  let config ← readConfig
  let opened ← try
      let path ← databasePath config
      pure ((← openDatabase path).map fun db => (path, db))
    catch _ => pure none
  match opened with
  | some (path, db) => runWith arguments config db (saveDatabase path)
  | none => runWith arguments config MemoryStore.new fun _ => return ()

end AdaptiveView.CommandLine

def main (arguments : List String) : IO UInt32 := do
  match AdaptiveView.CommandLine.Arguments.read arguments with
  | .error stop =>
      if stop = .usage then IO.eprint AdaptiveView.CommandLine.helpText
      stop.result.report
  | .ok arguments => AdaptiveView.CommandLine.run arguments

import AdaptiveView.CommandLine.Arguments
import AdaptiveView.CommandLine.Files
import AdaptiveView.Report.PlanText
import AdaptiveView.Screen.Update

/-!
# One run of the command line

A run opens the screen, gives it the snapshot and the messages that the options stand for, and shows
the plan.  The messages come in the order in which a user would click: what a later one would undo
is sent after it.
-/

set_option autoImplicit false

namespace AdaptiveView.CommandLine

open AdaptiveView AdaptiveView.Calendar AdaptiveView.Json

inductive RunError where
  | file (error : FileError)
  | json (error : DecodeError)

def RunError.message : RunError → String
  | .file error => "io: " ++ error.message
  | .json error => "json: " ++ error.message

/-- The messages that the options stand for. -/
def Arguments.messages (arguments : Arguments) (R : Type) [Record R] (α : Type) :
    List (Message R α) :=
  (if arguments.reset then [.resetPreferences] else []) ++
  (if arguments.auto then [.autoViewMode, .autoDensity] else []) ++
  arguments.mode.toList.map .selectViewMode ++
  arguments.density.toList.map .selectDensity ++
  arguments.groupBy.toList.map .groupBy ++
  arguments.search.toList.map .searchChanged ++
  arguments.pageSize.toList.map .setPageSize ++
  arguments.page.toList.map .setPage ++
  (if arguments.selectAll then [.selectAllVisible] else [])

def readFile {T : Type} (files : Files) (path : String) (decoder : Decoder T) : Except RunError T :=
  match files path with
  | .error e => .error (.file e)
  | .ok text => (takeDocument decoder text).mapError .json

section
variable {σ : Type} [PreferenceStore σ]

/-- The screen after the snapshot, the busy file and the options. -/
def present (arguments : Arguments) (R : Type) [Record R] [Listing R] {α : Type} [Coordinate α]
    (config : Settings α) (files : Files) (store : σ) : Except RunError (Screen R α) × σ :=
  let (screen, store) := Screen.ofListing R config store
  match readFile files arguments.snapshot (takeRecords R) with
  | .error e => (.error e, store)
  | .ok records =>
      let turn := screen.update (.collectionUpdated records) store
      let busy := arguments.busy.mapM fun path => readFile files path (takeIds R)
      match busy with
      | .error e => (.error e, turn.store)
      | .ok ids =>
          let messages := ids.toList.map Message.busyChanged ++ arguments.messages R α
          let turn := turn.screen.updateAll turn.store messages
          (.ok turn.screen, turn.store)

def displayRecords (arguments : Arguments) (R : Type) [Record R] [Listing R] [RowText R]
    (config : Settings Float) (files : Files) (now : Instant) (store : σ) :
    Except RunError String × σ :=
  let (outcome, store) := present arguments R config files store
  (outcome.map fun screen => (screen.plan now).text, store)

def display (arguments : Arguments) (config : Settings Float) (files : Files) (now : Instant)
    (store : σ) : Except RunError String × σ :=
  match arguments.screen with
  | .accounts => displayRecords arguments Account config files now store
  | .emails => displayRecords arguments Email config files now store

end

structure Result where
  exitCode : Nat
  output : String
  error : Option RunError

def versionText : String :=
  "mailview 0.1.0\n"

def helpText : String :=
  "Render an account or email snapshot the way the dashboard would\n\n" ++
  "Usage: mailview [OPTIONS] <SCREEN> <SNAPSHOT>\n"

def Stop.result : Stop → Result
  | .usage => ⟨2, "", none⟩
  | .version => ⟨0, versionText, none⟩
  | .help => ⟨0, helpText, none⟩

def resultOf : Except RunError String → Result
  | .ok output => ⟨0, output, none⟩
  | .error e => ⟨1, "", some e⟩

end AdaptiveView.CommandLine

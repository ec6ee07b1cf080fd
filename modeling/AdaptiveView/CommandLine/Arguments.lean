import AdaptiveView.Decimal.Reading
import AdaptiveView.Grouping
import AdaptiveView.Presentation

/-!
# Arguments of the command line

A screen, a snapshot file and options.  Options are read one after the other, so the first thing
that is wrong decides; a request for the version or for help ends the reading.  A value follows its
option after `=` or as the next argument, which then must not begin with a dash.
-/

set_option autoImplicit false

namespace AdaptiveView.CommandLine

open AdaptiveView

inductive ScreenName where
  | accounts
  | emails
  deriving DecidableEq, Repr

structure Arguments where
  screen : ScreenName
  snapshot : String
  search : Option String
  mode : Option ViewMode
  density : Option Density
  auto : Bool
  groupBy : Option GroupBy
  page : Option Nat
  pageSize : Option Nat
  selectAll : Bool
  reset : Bool
  busy : Option String
  watch : Bool
  deriving DecidableEq

/-- Why there is nothing to run. -/
inductive Stop where
  /-- The arguments make no sense. -/
  | usage
  | version
  | help
  deriving DecidableEq, Repr

/-- An option that is switched on by being there. -/
inductive Flag where
  | auto
  | selectAll
  | reset
  | watch
  deriving DecidableEq, Repr

/-- An option with a value. -/
inductive Setting where
  | search
  | mode
  | density
  | groupBy
  | page
  | pageSize
  | busy
  deriving DecidableEq, Repr

def flagNames : List (String × Flag) :=
  [("auto", .auto), ("select-all", .selectAll), ("reset", .reset), ("watch", .watch)]

def settingNames : List (String × Setting) :=
  [("search", .search), ("mode", .mode), ("density", .density), ("group-by", .groupBy),
   ("page", .page), ("page-size", .pageSize), ("busy", .busy)]

def screenNames : List (String × ScreenName) :=
  [("accounts", .accounts), ("emails", .emails)]

def modeNames : List (String × ViewMode) :=
  [("flat", .flat), ("virtualized", .virtualized), ("grouped", .grouped),
   ("paginated-table", .paginatedTable), ("paginated", .paginatedTable)]

def densityNames : List (String × Density) :=
  [("detailed", .detailed), ("compact", .compact), ("minimal", .minimal)]

def groupNames : List (String × GroupBy) :=
  [("none", .none), ("status", .status), ("category", .category), ("provider", .category),
   ("secondary", .secondary), ("sync-status", .secondary), ("domain", .domain),
   ("usage-frequency", .usage), ("usage", .usage)]

structure Reading where
  screen : Option ScreenName
  snapshot : Option String
  flags : List Flag
  search : Option String
  mode : Option ViewMode
  density : Option Density
  groupBy : Option GroupBy
  page : Option Nat
  pageSize : Option Nat
  busy : Option String

def Reading.start : Reading :=
  ⟨none, none, [], none, none, none, none, none, none, none⟩

/-- A value given once. -/
def once {T : Type} (given value : Option T) : Except Stop (Option T) :=
  if given.isSome || value.isNone then .error .usage else .ok value

/-- A path, which must not be empty. -/
def path? (s : String) : Option String :=
  if s.isEmpty then none else some s

def Reading.set (reading : Reading) (setting : Setting) (value : String) : Except Stop Reading :=
  match setting with
  | .search => return { reading with search := ← once reading.search (some value) }
  | .mode => return { reading with mode := ← once reading.mode (modeNames.lookup value) }
  | .density =>
      return { reading with density := ← once reading.density (densityNames.lookup value) }
  | .groupBy =>
      return { reading with groupBy := ← once reading.groupBy (groupNames.lookup value) }
  | .page => return { reading with page := ← once reading.page (Decimal.readCount? value) }
  | .pageSize =>
      return { reading with pageSize := ← once reading.pageSize (Decimal.readCount? value) }
  | .busy => return { reading with busy := ← once reading.busy (path? value) }

def Reading.raise (reading : Reading) (flag : Flag) : Except Stop Reading :=
  if flag ∈ reading.flags then .error .usage
  else .ok { reading with flags := flag :: reading.flags }

/-- An argument that is no option: the screen, then the snapshot. -/
def Reading.position (reading : Reading) (value : String) : Except Stop Reading :=
  if reading.screen.isNone then
    return { reading with screen := ← once reading.screen (screenNames.lookup value) }
  else return { reading with snapshot := ← once reading.snapshot (path? value) }

/-- An argument by its form. -/
inductive Form where
  | position (value : String)
  /-- Two dashes: no options follow. -/
  | divider
  /-- A name after two dashes and what follows its first `=`. -/
  | long (name : String) (value : Option String)
  /-- Letters after one dash. -/
  | short (letters : List Char)

def formOf (argument : String) : Form :=
  match argument.toList with
  | ['-', '-'] => .divider
  | '-' :: '-' :: rest =>
      let name := rest.takeWhile (· != '=')
      match rest.dropWhile (· != '=') with
      | _ :: value => .long (String.ofList name) (some (String.ofList value))
      | [] => .long (String.ofList name) none
  | '-' :: c :: rest => .short (c :: rest)
  | _ => .position argument

def Reading.readFrom (reading : Reading) : List String → Except Stop Reading
  | [] => .ok reading
  | argument :: rest =>
      match formOf argument with
      | .position value => do (← reading.position value).readFrom rest
      | .divider => rest.foldlM Reading.position reading
      | .short letters =>
          match letters.head? with
          | some 'V' => .error .version
          | some 'h' => .error .help
          | _ => .error .usage
      | .long name value =>
          match flagNames.lookup name, settingNames.lookup name, value with
          | some flag, _, none => do (← reading.raise flag).readFrom rest
          | none, some setting, some value => do (← reading.set setting value).readFrom rest
          | none, some setting, none =>
              match rest with
              | [] => .error .usage
              | next :: rest =>
                  match formOf next with
                  | .position value => do (← reading.set setting value).readFrom rest
                  | _ => .error .usage
          | none, none, none =>
              if name = "version" then .error .version
              else if name = "help" then .error .help
              else .error .usage
          | _, _, _ => .error .usage

/-- The arguments of a run, without the name of the program. -/
def Arguments.read (arguments : List String) : Except Stop Arguments := do
  let reading ← Reading.start.readFrom arguments
  match reading.screen, reading.snapshot with
  | some screen, some snapshot =>
      return {
        screen
        snapshot
        search := reading.search
        mode := reading.mode
        density := reading.density
        auto := Flag.auto ∈ reading.flags
        groupBy := reading.groupBy
        page := reading.page
        pageSize := reading.pageSize
        selectAll := Flag.selectAll ∈ reading.flags
        reset := Flag.reset ∈ reading.flags
        busy := reading.busy
        watch := Flag.watch ∈ reading.flags }
  | _, _ => .error .usage

end AdaptiveView.CommandLine

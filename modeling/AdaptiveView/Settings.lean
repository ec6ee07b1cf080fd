import AdaptiveView.Page
import AdaptiveView.Policy
import AdaptiveView.Text.Blank
import AdaptiveView.Viewport

/-!
# Configuration

The settings of the list view come from a file, in which any of them may be missing, and from the
environment, which wins.  Values that nothing can be done with are replaced by the standard ones at
the end.
-/

set_option autoImplicit false

namespace AdaptiveView

open AdaptiveView.Json

/-- The settings; heights are of type `α`. -/
structure Settings (α : Type) where
  pageSize : Nat
  overscan : Nat
  /-- The height of the viewport until the real one is known. -/
  containerHeight : α
  viewMode : ViewModePolicy
  density : DensityPolicy
  busyPollSecs : Nat
  refreshSecs : Nat
  /-- Where the preferences are kept, if not in the usual place. -/
  dataDir : Option String

namespace Settings

def standardHeight : Nat := 600
def standardBusyPollSecs : Nat := 5
def standardRefreshSecs : Nat := 300

variable {α : Type} [Coordinate α]

def standard : Settings α where
  pageSize := Pager.standardPageSize
  overscan := Viewport.standardOverscan
  containerHeight := Coordinate.ofNat standardHeight
  viewMode := .standard
  density := .standard
  busyPollSecs := standardBusyPollSecs
  refreshSecs := standardRefreshSecs
  dataDir := none

/-- A value that stands for `fallback` when it is zero. -/
def orIfZero (n fallback : Nat) : Nat :=
  if n = 0 then fallback else n

/-- The configuration with values that can be used. -/
def usable (config : Settings α) : Settings α :=
  let height := config.containerHeight
  { config with
    pageSize := orIfZero config.pageSize Pager.standardPageSize
    containerHeight :=
      if !Coordinate.isFinite height || Coordinate.lt height Coordinate.zero then
        Coordinate.ofNat standardHeight
      else height
    busyPollSecs := orIfZero config.busyPollSecs standardBusyPollSecs
    refreshSecs := orIfZero config.refreshSecs standardRefreshSecs }

def busyPollMillis (config : Settings α) : Nat :=
  config.busyPollSecs * 1000

def refreshMillis (config : Settings α) : Nat :=
  config.refreshSecs * 1000

/-- A file in a directory. -/
def joinPath (dir file : String) : String :=
  if dir.isEmpty || dir.endsWith "/" then dir ++ file else dir ++ "/" ++ file

def databaseIn (dir : String) : String :=
  joinPath dir "prefs.db"

end Settings

/-! ## In documents -/

namespace Settings

def shape : Shape where
  name := "ViewConfig"
  fields :=
    [.of "page_size" takeSize, .of "overscan" takeSize, .of "container_height" takeDouble,
     .of "view_mode" ViewModePolicy.take, .of "density" DensityPolicy.take,
     .of "busy_poll_secs" takeCount, .of "refresh_secs" takeCount,
     .of "data_dir" (takeOptional (takeTextAs "path string"))]

/-- A configuration of which any field may be missing. -/
def take : Decoder (Settings Float) := fun node => do
  let fields ← shape.take node
  let base : Settings Float := standard
  return {
    pageSize := ← fields.getD "page_size" takeSize base.pageSize
    overscan := ← fields.getD "overscan" takeSize base.overscan
    containerHeight := ← fields.getD "container_height" takeDouble base.containerHeight
    viewMode := ← fields.getD "view_mode" ViewModePolicy.take base.viewMode
    density := ← fields.getD "density" DensityPolicy.take base.density
    busyPollSecs := ← fields.getD "busy_poll_secs" takeCount base.busyPollSecs
    refreshSecs := ← fields.getD "refresh_secs" takeCount base.refreshSecs
    dataDir := ← fields.getD "data_dir" (takeOptional (takeTextAs "path string")) none }

def toValue (config : Settings Float) : Value :=
  .object
    [("page_size", .count config.pageSize), ("overscan", .count config.overscan),
     ("container_height", .number (.double config.containerHeight)),
     ("view_mode", config.viewMode.toValue), ("density", config.density.toValue),
     ("busy_poll_secs", .count config.busyPollSecs), ("refresh_secs", .count config.refreshSecs),
     ("data_dir", .optional .text config.dataDir)]

def ofText (file : String) : Decoded (Settings Float) :=
  takeDocument take file

def fileText (config : Settings Float) : String :=
  config.toValue.renderLines ""

/-- Whether two configurations say the same; two undefined heights are not the same. -/
def same (a b : Settings Float) : Bool :=
  a.pageSize == b.pageSize && a.overscan == b.overscan &&
    a.containerHeight == b.containerHeight && a.viewMode == b.viewMode &&
    a.density == b.density && a.busyPollSecs == b.busyPollSecs &&
    a.refreshSecs == b.refreshSecs && a.dataDir == b.dataDir

end Settings

/-! ## In the environment -/

abbrev Environment := String → Option String

namespace Settings

def variableNames : List String :=
  ["MAILVIEW_PAGE_SIZE", "MAILVIEW_OVERSCAN", "MAILVIEW_VIEWPORT_HEIGHT",
   "MAILVIEW_BUSY_POLL_SECS", "MAILVIEW_REFRESH_SECS", "MAILVIEW_DATA_DIR"]

/-- A setting from the environment, if it is there and can be read. -/
def setting {β : Type} (env : Environment) (name : String) (read? : String → Option β)
    (current : β) : β :=
  (((env name).map Text.trim).bind read?).getD current

/-- The configuration with the settings of the environment.  A value that cannot be read is passed
over, and so is a blank directory. -/
def applyEnvironment (config : Settings Float) (env : Environment) : Settings Float :=
  { config with
    pageSize := setting env "MAILVIEW_PAGE_SIZE" Decimal.readCount? config.pageSize
    overscan := setting env "MAILVIEW_OVERSCAN" Decimal.readCount? config.overscan
    containerHeight :=
      setting env "MAILVIEW_VIEWPORT_HEIGHT" Decimal.readLength? config.containerHeight
    busyPollSecs := setting env "MAILVIEW_BUSY_POLL_SECS" Decimal.readCount? config.busyPollSecs
    refreshSecs := setting env "MAILVIEW_REFRESH_SECS" Decimal.readCount? config.refreshSecs
    dataDir :=
      match env "MAILVIEW_DATA_DIR" with
      | some dir => if Text.isBlankText dir then config.dataDir else some dir
      | none => config.dataDir }

/-- The configuration of a run: the file's, or the standard one where there is no file or it cannot
be read, with the environment over it. -/
def resolve (file : Option String) (env : Environment) : Settings Float :=
  let loaded := match file.map ofText with
    | some (.ok config) => config
    | _ => standard
  (loaded.applyEnvironment env).usable

end Settings

end AdaptiveView

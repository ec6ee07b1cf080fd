import AdaptiveView.Proofs.Json.Doubles
import AdaptiveView.Proofs.Json.Fields
import AdaptiveView.Proofs.Settings.Resolved

/-!
# Configurations that were saved

A resolved configuration that is saved is loaded again as it was.  Where keys are taken out of the
saved object, also within its two policies, the settings under them have their defaults and the
others are as they were.  Of the height this needs that its text is read back as the same double.
-/

set_option autoImplicit false

namespace AdaptiveView

open AdaptiveView.Decimal AdaptiveView.Json

/-! ## Policies -/

/-- The members of an object that holds bounds. -/
def boundMembers (bounds : List (String × Nat)) : List (String × Value) :=
  bounds.map fun bound => (bound.1, .count bound.2)

section
variable {bounds : List (String × Nat)}

theorem given_boundMembers {shape : Shape} (once : (bounds.map Prod.fst).Nodup)
    (fields : ∀ bound ∈ bounds,
      shape.fields.find? (·.name == bound.1) = some (.of bound.1 takeSize)) :
    shape.Given (boundMembers bounds) where
  once := by
    rw [boundMembers, List.map_map]
    exact once
  fits := by
    intro member among
    obtain ⟨bound, inside, rfl⟩ := List.mem_map.mp among
    exact ⟨_, fields bound inside, Field.check_of rfl⟩

theorem legible_boundMembers (fits : ∀ bound ∈ bounds, bound.2 < countLimit)
    (gone : String → Bool) : ((Value.object (boundMembers bounds)).without gone).Legible := by
  apply Json.legible_without
  intro member among
  obtain ⟨bound, inside, rfl⟩ := List.mem_map.mp among
  exact Value.legible_count (fits bound inside)

end

def ViewModePolicy.bounds (policy : ViewModePolicy) : List (String × Nat) :=
  [("flat_max", policy.flatMax), ("virtualized_max", policy.virtualizedMax),
    ("grouped_max", policy.groupedMax)]

/-- The policy that is left when bounds are gone. -/
def ViewModePolicy.without (policy : ViewModePolicy) (gone : String → Bool) : ViewModePolicy where
  flatMax := if gone "flat_max" then standard.flatMax else policy.flatMax
  virtualizedMax := if gone "virtualized_max" then standard.virtualizedMax else policy.virtualizedMax
  groupedMax := if gone "grouped_max" then standard.groupedMax else policy.groupedMax

theorem ViewModePolicy.take_without (policy : ViewModePolicy) (gone : String → Bool) :
    take (policy.toValue.without gone).toNode = .ok (policy.without gone) := by
  have given : shape.Given (boundMembers policy.bounds) :=
    given_boundMembers (by simp [bounds]) (by simp [bounds, shape, Field.of])
  refine bind_ok (shape.take_without given gone) ?_
  refine bind_ok (getD_leftOf _ rfl rfl) ?_
  refine bind_ok (getD_leftOf _ rfl rfl) ?_
  refine bind_ok (getD_leftOf _ rfl rfl) ?_
  rfl

theorem ViewModePolicy.Fits.legible_without {policy : ViewModePolicy} (fits : policy.Fits)
    (gone : String → Bool) : (policy.toValue.without gone).Legible := by
  have inBounds : ∀ bound ∈ policy.bounds, bound.2 < countLimit := by
    simp [bounds, fits.flatMax, fits.virtualizedMax, fits.groupedMax]
  exact legible_boundMembers inBounds gone

def DensityPolicy.bounds (policy : DensityPolicy) : List (String × Nat) :=
  [("detailed_max", policy.detailedMax), ("compact_max", policy.compactMax)]

@[inherit_doc ViewModePolicy.without]
def DensityPolicy.without (policy : DensityPolicy) (gone : String → Bool) : DensityPolicy where
  detailedMax := if gone "detailed_max" then standard.detailedMax else policy.detailedMax
  compactMax := if gone "compact_max" then standard.compactMax else policy.compactMax

theorem DensityPolicy.take_without (policy : DensityPolicy) (gone : String → Bool) :
    take (policy.toValue.without gone).toNode = .ok (policy.without gone) := by
  have given : shape.Given (boundMembers policy.bounds) :=
    given_boundMembers (by simp [bounds]) (by simp [bounds, shape, Field.of])
  refine bind_ok (shape.take_without given gone) ?_
  refine bind_ok (getD_leftOf _ rfl rfl) ?_
  refine bind_ok (getD_leftOf _ rfl rfl) ?_
  rfl

theorem DensityPolicy.Fits.legible_without {policy : DensityPolicy} (fits : policy.Fits)
    (gone : String → Bool) : (policy.toValue.without gone).Legible := by
  have inBounds : ∀ bound ∈ policy.bounds, bound.2 < countLimit := by
    simp [bounds, fits.detailedMax, fits.compactMax]
  exact legible_boundMembers inBounds gone

/-! ## Configurations -/

namespace Settings

/-- The keys that are missing from a saved configuration. -/
structure Missing where
  top : String → Bool
  viewMode : String → Bool
  density : String → Bool

def Missing.nothing : Missing :=
  ⟨fun _ => false, fun _ => false, fun _ => false⟩

section
variable (config : Settings Float) (missing : Missing)

/-- What is saved, without the keys that are missing. -/
def remnantValue : Value :=
  ((config.toValue.within "view_mode" (·.without missing.viewMode)).within "density"
    (·.without missing.density)).without missing.top

/-- The configuration with defaults under the keys that are missing. -/
def without : Settings Float where
  pageSize := if missing.top "page_size" then standard.pageSize (α := Float) else config.pageSize
  overscan := if missing.top "overscan" then standard.overscan (α := Float) else config.overscan
  containerHeight :=
    if missing.top "container_height" then standard.containerHeight else config.containerHeight
  viewMode :=
    if missing.top "view_mode" then .standard else config.viewMode.without missing.viewMode
  density := if missing.top "density" then .standard else config.density.without missing.density
  busyPollSecs := if missing.top "busy_poll_secs" then standardBusyPollSecs else config.busyPollSecs
  refreshSecs := if missing.top "refresh_secs" then standardRefreshSecs else config.refreshSecs
  dataDir := if missing.top "data_dir" then none else config.dataDir

def members : List (String × Value) :=
  [("page_size", .count config.pageSize), ("overscan", .count config.overscan),
   ("container_height", .number (.double config.containerHeight)),
   ("view_mode", config.viewMode.toValue.without missing.viewMode),
   ("density", config.density.toValue.without missing.density),
   ("busy_poll_secs", .count config.busyPollSecs), ("refresh_secs", .count config.refreshSecs),
   ("data_dir", .optional .text config.dataDir)]

theorem remnantValue_eq :
    config.remnantValue missing = (Value.object (config.members missing)).without missing.top :=
  rfl

theorem remnantValue_nothing : config.remnantValue .nothing = config.toValue := by
  rw [remnantValue, Missing.nothing, Value.without_nothing,
    Value.within_of_same Value.without_nothing, Value.within_of_same Value.without_nothing]

theorem takeOptional_path (dir : Option String) :
    takeOptional (takeTextAs "path string") (Value.optional .text dir).toNode = .ok dir := by
  apply takeOptional_optional
  intro s
  exact ⟨by simp [Value.toNode], rfl⟩

theorem given_members : shape.Given (config.members missing) where
  once := by
    simp only [members, List.map_cons, List.map_nil]
    decide
  fits := by
    simp only [members, List.forall_mem_cons]
    refine ⟨⟨_, rfl, Field.check_of rfl⟩, ⟨_, rfl, Field.check_of rfl⟩,
      ⟨_, rfl, Field.check_of rfl⟩,
      ⟨_, rfl, Field.check_of (config.viewMode.take_without missing.viewMode)⟩,
      ⟨_, rfl, Field.check_of (config.density.take_without missing.density)⟩,
      ⟨_, rfl, Field.check_of rfl⟩, ⟨_, rfl, Field.check_of rfl⟩,
      ⟨_, rfl, Field.check_of (takeOptional_path config.dataDir)⟩, ?_⟩
    simp

theorem take_remnantValue :
    take (config.remnantValue missing).toNode = .ok (config.without missing) := by
  refine bind_ok (shape.take_without (config.given_members missing) missing.top) ?_
  refine bind_ok (getD_leftOf _ rfl rfl) ?_
  refine bind_ok (getD_leftOf _ rfl rfl) ?_
  refine bind_ok (getD_leftOf _ rfl rfl) ?_
  refine bind_ok (getD_leftOf _ rfl (config.viewMode.take_without missing.viewMode)) ?_
  refine bind_ok (getD_leftOf _ rfl (config.density.take_without missing.density)) ?_
  refine bind_ok (getD_leftOf _ rfl rfl) ?_
  refine bind_ok (getD_leftOf _ rfl rfl) ?_
  refine bind_ok (getD_leftOf _ rfl (takeOptional_path config.dataDir)) ?_
  rfl

end

theorem Fits.legible_remnantValue {config : Settings Float} (fits : config.Fits)
    (finite : config.containerHeight.isFinite = true) (readBack : ReadBack config.containerHeight)
    (missing : Missing) : (config.remnantValue missing).Legible := by
  rw [remnantValue_eq]
  apply Json.legible_without
  simp only [members, List.forall_mem_cons]
  refine ⟨Value.legible_count fits.pageSize, Value.legible_count fits.overscan,
    Number.legible_double finite readBack, fits.viewMode.legible_without _,
    fits.density.legible_without _, Value.legible_count fits.busyPollSecs,
    Value.legible_count fits.refreshSecs, Value.legible_optional fun s _ => Value.legible_text s, ?_⟩
  simp

theorem ofText_remnant {config : Settings Float} (fits : config.Fits)
    (finite : config.containerHeight.isFinite = true) (readBack : ReadBack config.containerHeight)
    (missing : Missing) {file : String} (written : (config.remnantValue missing).WrittenAs file) :
    ofText file = .ok (config.without missing) :=
  takeDocument_written written (fits.legible_remnantValue finite readBack missing)
    (config.take_remnantValue missing)

theorem resolved_survives_saving (file : Option String) (env : Environment) :
    (resolve file env).Usable ∧
      ((resolve file env).applyEnvironment env).usable = resolve file env ∧
      (ReadBack (resolve file env).containerHeight →
        ofText (resolve file env).fileText = .ok (resolve file env) ∧
        ∀ (missing : Missing) (left : String),
          ((resolve file env).remnantValue missing).WrittenAs left →
            ofText left = .ok ((resolve file env).without missing)) := by
  have usable : (resolve file env).Usable := usable_usable _
  have fits := fits_resolve file env
  refine ⟨usable, applyEnvironment_again _ env, ?_⟩
  intro readBack
  refine ⟨?_, fun missing left => ofText_remnant fits usable.finite readBack missing⟩
  have saved : ((resolve file env).remnantValue .nothing).WrittenAs (resolve file env).fileText := by
    rw [remnantValue_nothing]
    exact .inr rfl
  exact ofText_remnant fits usable.finite readBack .nothing saved

/-- A double is read back if it is what its digits before and after the point come to. -/
theorem readBack_of_positional (whole places : List Char) {x : Float} {lead digits count : Nat}
    (proper : (positional whole places).Proper)
    (text : (shortestText x).toList = whole ++ '.' :: places)
    (leads : whole.foldl Significand.pushWhole ⟨0, 0⟩ = ⟨lead, 0⟩)
    (kept : pushPlaces lead places = (digits, count)) (some : 0 < count) (few : count ≤ 308)
    (value : Float.ofNat digits / powerOfTen count = x) : ReadBack x := by
  have scaled : scaleByTen (Float.ofNat digits) (0 - count) = .ok x := by
    have small : (0 - (count : Int)).natAbs = count := by omega
    rw [scaleByTen, small, if_pos few, if_neg (by omega), value]
  have magnitude : (positional whole places).magnitude = .ok x := by
    simp only [Numeral.magnitude, positional, leads, Option.getD_some, kept]
    exact scaled
  have worth : (positional whole places).value = .ok (.double x) := by
    rw [Numeral.value, magnitude]
    rfl
  rw [ReadBack, takeDocument,
    Document.ofText_numeral proper (text.trans (chars_positional whole places).symm), worth]
  rfl

/-- A file that sets a height, a bound of a policy, a directory and one thing more. -/
def savedFile : String :=
  "\x7b\"overscan\":9,\"container_height\":99.5,\"view_mode\":\x7b\"flat_max\":3\x7d," ++
    "\"data_dir\":\"old\"\x7d"

/-- Another height and another directory, and a page size that is of no use. -/
def givenEnvironment : Environment
  | "MAILVIEW_PAGE_SIZE" => some "0"
  | "MAILVIEW_VIEWPORT_HEIGHT" => some " 250.5 "
  | "MAILVIEW_DATA_DIR" => some "/var/mail view"
  | _ => none

/-- What the file says. -/
def savedConfig : Settings Float :=
  { (standard : Settings Float) with
    overscan := 9
    containerHeight := 99.5
    viewMode := ⟨3, 30, 50⟩
    dataDir := some "old" }

/-- What the file and the environment come to. -/
def givenConfig : Settings Float :=
  { savedConfig with
    containerHeight := 250.5
    dataDir := some "/var/mail view" }

theorem ofText_savedFile : ofText savedFile = .ok savedConfig := by
  let missing : Missing :=
    ⟨(· ∉ ["overscan", "container_height", "view_mode", "data_dir"]), (· ≠ "flat_max"),
      fun _ => false⟩
  have fits : savedConfig.Fits :=
    ⟨by decide, by decide, ⟨by decide, by decide, by decide⟩, DensityPolicy.fits_standard, by decide,
      by decide⟩
  have readBack : ReadBack savedConfig.containerHeight := by
    refine readBack_of_positional ['9', '9'] ['5'] ?_ ?_ rfl rfl ?_ ?_ ?_
    · exact proper_positional ⟨by simp, by simp⟩ (by simp) ⟨by simp, by simp⟩
    all_goals decide +kernel
  have written : (savedConfig.remnantValue missing).WrittenAs savedFile := by
    apply Or.inl
    decide +kernel
  exact ofText_remnant fits (by decide +kernel) readBack missing written

theorem resolve_savedFile : resolve (some savedFile) givenEnvironment = givenConfig := by
  rw [resolve, Option.map_some, ofText_savedFile]
  rfl

/-- The file and the environment come to a configuration that is saved and loaded, and so is what is left
of it when a policy's bound, a directory and one thing more are taken out. -/
theorem savedFile_survives_saving :
    let config := resolve (some savedFile) givenEnvironment
    let missing : Missing := ⟨(· ∈ ["overscan", "data_dir"]), (· = "flat_max"), fun _ => false⟩
    config = givenConfig ∧ ofText config.fileText = .ok givenConfig ∧
      ofText (config.remnantValue missing).render =
        .ok { (standard : Settings Float) with containerHeight := 250.5 } := by
  intro config missing
  have resolved : config = givenConfig := resolve_savedFile
  have readBack : ReadBack config.containerHeight := by
    rw [resolved]
    refine readBack_of_positional ['2', '5', '0'] ['5'] ?_ ?_ rfl rfl ?_ ?_ ?_
    · exact proper_positional ⟨by simp, by simp⟩ (by simp) ⟨by simp, by simp⟩
    all_goals decide +kernel
  obtain ⟨-, -, survives⟩ := resolved_survives_saving (some savedFile) givenEnvironment
  obtain ⟨loaded, remnants⟩ := survives readBack
  refine ⟨resolved, ?_, ?_⟩
  · rw [← resolved]
    exact loaded
  · rw [remnants missing _ (.inl rfl)]
    change Except.ok (config.without missing) = _
    rw [resolved]
    rfl

end Settings

end AdaptiveView

import AdaptiveView.Proofs.Decimal.Signs
import AdaptiveView.Proofs.Json.Bounded
import AdaptiveView.Settings

/-!
# Configurations that were resolved

Whatever the file and the environment say, a resolved configuration can be used: nothing in it is zero
that must not be, and its height is a finite one.  Its counts fit into 64 bits.  Resolving it once more
under the same environment changes nothing.
-/

set_option autoImplicit false

namespace AdaptiveView

open AdaptiveView.Decimal AdaptiveView.Json

/-! ## Heights -/

theorem isFinite_standardHeight :
    (Float.ofNat Settings.standardHeight).isFinite = true := by
  decide +kernel

theorem standardHeight_not_below :
    (Float.ofNat Settings.standardHeight).lt 0 = false := by
  decide +kernel

namespace Settings

/-! ## What can be used -/

structure Usable (config : Settings Float) : Prop where
  pageSize : 1 ≤ config.pageSize
  busyPollSecs : 1 ≤ config.busyPollSecs
  refreshSecs : 1 ≤ config.refreshSecs
  finite : config.containerHeight.isFinite = true
  nonnegative : Float.le 0 config.containerHeight = true

/-- The height with which a height is replaced that cannot be used. -/
def usableHeight (x : Float) : Float :=
  if !x.isFinite || x.lt 0 then Float.ofNat standardHeight else x

theorem usable_eq (config : Settings Float) : config.usable =
    { config with
      pageSize := orIfZero config.pageSize Pager.standardPageSize
      containerHeight := usableHeight config.containerHeight
      busyPollSecs := orIfZero config.busyPollSecs standardBusyPollSecs
      refreshSecs := orIfZero config.refreshSecs standardRefreshSecs } :=
  rfl

theorem orIfZero_pos {n fallback : Nat} (pos : 0 < fallback) : 0 < orIfZero n fallback := by
  unfold orIfZero
  split <;> omega

theorem usableHeight_finite (x : Float) : (usableHeight x).isFinite = true := by
  unfold usableHeight
  split
  case isTrue => exact isFinite_standardHeight
  case isFalse fine => simp_all

theorem usableHeight_not_below (x : Float) : (usableHeight x).lt 0 = false := by
  unfold usableHeight
  split
  case isTrue => exact standardHeight_not_below
  case isFalse fine => simp_all

theorem usable_usable (config : Settings Float) : config.usable.Usable where
  pageSize := orIfZero_pos (by decide)
  busyPollSecs := orIfZero_pos (by decide)
  refreshSecs := orIfZero_pos (by decide)
  finite := usableHeight_finite _
  nonnegative := Float.zero_le_of_finite (usableHeight_finite _) (usableHeight_not_below _)

/-! ## Resolving again -/

theorem orIfZero_orIfZero (n : Nat) {fallback : Nat} (pos : 0 < fallback) :
    orIfZero (orIfZero n fallback) fallback = orIfZero n fallback :=
  if_neg (Nat.ne_of_gt (orIfZero_pos pos))

theorem usableHeight_usableHeight (x : Float) : usableHeight (usableHeight x) = usableHeight x := by
  rw [usableHeight, usableHeight_finite, usableHeight_not_below]
  rfl

/-- A setting that was mended is made from the environment and mended again. -/
theorem setting_again {β : Type} (mend : β → β) (mended : ∀ b, mend (mend b) = mend b)
    (env : Environment) (name : String) (read? : String → Option β) (current : β) :
    mend (setting env name read? (mend (setting env name read? current))) =
      mend (setting env name read? current) := by
  unfold setting
  cases ((env name).map Text.trim).bind read? with
  | none => exact mended current
  | some b => rfl

theorem applyEnvironment_again (config : Settings Float) (env : Environment) :
    (((config.applyEnvironment env).usable).applyEnvironment env).usable =
      (config.applyEnvironment env).usable := by
  have count {fallback : Nat} (pos : 0 < fallback) (n : Nat) :
      orIfZero (orIfZero n fallback) fallback = orIfZero n fallback := orIfZero_orIfZero n pos
  rw [usable_eq, usable_eq]
  simp only [applyEnvironment, Settings.mk.injEq]
  refine ⟨?_, ?_, ?_, trivial, trivial, ?_, ?_, ?_⟩
  · exact setting_again (orIfZero · Pager.standardPageSize) (count (by decide)) env _ _ _
  · exact setting_again id (fun _ => rfl) env _ _ _
  · exact setting_again usableHeight usableHeight_usableHeight env _ _ _
  · exact setting_again (orIfZero · standardBusyPollSecs) (count (by decide)) env _ _ _
  · exact setting_again (orIfZero · standardRefreshSecs) (count (by decide)) env _ _ _
  · cases env "MAILVIEW_DATA_DIR" with
    | none => rfl
    | some dir => cases blank : Text.isBlankText dir <;> simp [blank]

end Settings

/-! ## Counts that fit -/

structure ViewModePolicy.Fits (policy : ViewModePolicy) : Prop where
  flatMax : policy.flatMax < countLimit
  virtualizedMax : policy.virtualizedMax < countLimit
  groupedMax : policy.groupedMax < countLimit

structure DensityPolicy.Fits (policy : DensityPolicy) : Prop where
  detailedMax : policy.detailedMax < countLimit
  compactMax : policy.compactMax < countLimit

structure Settings.Fits (config : Settings Float) : Prop where
  pageSize : config.pageSize < countLimit
  overscan : config.overscan < countLimit
  viewMode : config.viewMode.Fits
  density : config.density.Fits
  busyPollSecs : config.busyPollSecs < countLimit
  refreshSecs : config.refreshSecs < countLimit

theorem ViewModePolicy.fits_standard : standard.Fits :=
  ⟨by decide, by decide, by decide⟩

theorem DensityPolicy.fits_standard : standard.Fits :=
  ⟨by decide, by decide⟩

theorem getD_count {fields : Fields} {name : String} {default n : Nat} (bounded : fields.Bounded)
    (fits : default < countLimit) {expected : String}
    (taken : fields.getD name (takeCountAs expected) default = .ok n) : n < countLimit :=
  fields.getD_holds (P := (· < countLimit)) bounded (fun _ _ => lt_of_takeCountAs) fits taken

theorem ViewModePolicy.fits_take {node : Node} {policy : ViewModePolicy} (bounded : node.Bounded)
    (taken : take node = .ok policy) : policy.Fits := by
  obtain ⟨fields, found, taken⟩ := ok_of_bind taken
  have bounded := Shape.bounded_take bounded found
  obtain ⟨flatMax, flat, taken⟩ := ok_of_bind taken
  obtain ⟨virtualizedMax, virtualized, taken⟩ := ok_of_bind taken
  obtain ⟨groupedMax, grouped, taken⟩ := ok_of_bind taken
  cases taken
  exact ⟨getD_count bounded (by decide) flat, getD_count bounded (by decide) virtualized,
    getD_count bounded (by decide) grouped⟩

theorem DensityPolicy.fits_take {node : Node} {policy : DensityPolicy} (bounded : node.Bounded)
    (taken : take node = .ok policy) : policy.Fits := by
  obtain ⟨fields, found, taken⟩ := ok_of_bind taken
  have bounded := Shape.bounded_take bounded found
  obtain ⟨detailedMax, detailed, taken⟩ := ok_of_bind taken
  obtain ⟨compactMax, compact, taken⟩ := ok_of_bind taken
  cases taken
  exact ⟨getD_count bounded (by decide) detailed, getD_count bounded (by decide) compact⟩

namespace Settings

theorem fits_standard : (standard : Settings Float).Fits where
  pageSize := by decide
  overscan := by decide
  viewMode := ViewModePolicy.fits_standard
  density := DensityPolicy.fits_standard
  busyPollSecs := by decide
  refreshSecs := by decide

theorem fits_take {node : Node} {config : Settings Float} (bounded : node.Bounded)
    (taken : take node = .ok config) : config.Fits := by
  obtain ⟨fields, found, taken⟩ := ok_of_bind taken
  have bounded := Shape.bounded_take bounded found
  obtain ⟨pageSize, page, taken⟩ := ok_of_bind taken
  obtain ⟨overscan, scan, taken⟩ := ok_of_bind taken
  obtain ⟨containerHeight, -, taken⟩ := ok_of_bind taken
  obtain ⟨viewMode, mode, taken⟩ := ok_of_bind taken
  obtain ⟨density, dense, taken⟩ := ok_of_bind taken
  obtain ⟨busyPollSecs, busy, taken⟩ := ok_of_bind taken
  obtain ⟨refreshSecs, refresh, taken⟩ := ok_of_bind taken
  obtain ⟨dataDir, -, taken⟩ := ok_of_bind taken
  cases taken
  exact {
    pageSize := getD_count bounded (by decide) page
    overscan := getD_count bounded (by decide) scan
    viewMode := fields.getD_holds bounded (fun _ _ => ViewModePolicy.fits_take)
      ViewModePolicy.fits_standard mode
    density := fields.getD_holds bounded (fun _ _ => DensityPolicy.fits_take)
      DensityPolicy.fits_standard dense
    busyPollSecs := getD_count bounded (by decide) busy
    refreshSecs := getD_count bounded (by decide) refresh }

theorem fits_ofText {file : String} {config : Settings Float} (read : ofText file = .ok config) :
    config.Fits :=
  fits_take (Document.bounded_ofText file) (root_of_takeDocument read)

theorem lt_of_readCount? {s : String} {n : Nat} (read : readCount? s = some n) :
    n < countLimit := by
  obtain ⟨found, -, read⟩ := Option.bind_eq_some_iff.mp read
  split at read
  case isTrue fits =>
    cases read
    exact fits
  case isFalse => cases read

theorem lt_of_setting {env : Environment} {name : String} {current : Nat}
    (fits : current < countLimit) : setting env name readCount? current < countLimit := by
  unfold setting
  cases read : ((env name).map Text.trim).bind readCount? with
  | none => exact fits
  | some n =>
      obtain ⟨text, -, read⟩ := Option.bind_eq_some_iff.mp read
      exact lt_of_readCount? read

theorem Fits.applyEnvironment {config : Settings Float} (fits : config.Fits) (env : Environment) :
    (config.applyEnvironment env).Fits where
  pageSize := lt_of_setting fits.pageSize
  overscan := lt_of_setting fits.overscan
  viewMode := fits.viewMode
  density := fits.density
  busyPollSecs := lt_of_setting fits.busyPollSecs
  refreshSecs := lt_of_setting fits.refreshSecs

theorem lt_of_orIfZero {n fallback : Nat} (fits : n < countLimit) (standard : fallback < countLimit) :
    orIfZero n fallback < countLimit := by
  unfold orIfZero
  split <;> assumption

theorem Fits.usable {config : Settings Float} (fits : config.Fits) : config.usable.Fits where
  pageSize := lt_of_orIfZero fits.pageSize (by decide)
  overscan := fits.overscan
  viewMode := fits.viewMode
  density := fits.density
  busyPollSecs := lt_of_orIfZero fits.busyPollSecs (by decide)
  refreshSecs := lt_of_orIfZero fits.refreshSecs (by decide)

/-- A configuration that was resolved from some file under some environment. -/
theorem fits_resolve (file : Option String) (env : Environment) : (resolve file env).Fits := by
  unfold resolve
  dsimp only
  apply Fits.usable
  apply Fits.applyEnvironment
  split
  case h_1 config read =>
    obtain ⟨text, -, read⟩ := Option.map_eq_some_iff.mp read
    exact fits_ofText read
  case h_2 => exact fits_standard

end Settings

end AdaptiveView

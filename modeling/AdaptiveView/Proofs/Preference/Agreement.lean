import AdaptiveView.Proofs.Preference.Reported

/-!
# Stores that agree on some keys

Whatever is done to a store is done under one key.  It changes the text under that key alone, and what
is reported of it is reported under that key.  So two stores that hold the same texts under some keys,
and have reported the same of them, stay so through whatever is done to both under one of these keys
and to either of them elsewhere.
-/

set_option autoImplicit false

namespace AdaptiveView

open WorkingStore

namespace StoreAccess

def key : StoreAccess → String
  | .read key => key
  | .write key _ => key
  | .remove key => key

/-- What becomes of the text under a key. -/
def leaves (access : StoreAccess) (other : String) (text : Option String) : Option String :=
  match access with
  | .read _ => text
  | .write key value => if other = key then some value else text
  | .remove key => if other = key then none else text

/-- What is reported, given the text that stood under the key. -/
def reports (access : StoreAccess) (text : Option String) : List Change :=
  match access with
  | .read _ => []
  | .write key value => [⟨key, some value⟩]
  | .remove key => if text.isSome then [⟨key, none⟩] else []

theorem leaves_of_ne {access : StoreAccess} {other : String} (elsewhere : other ≠ access.key)
    (text : Option String) : access.leaves other text = text := by
  cases access with
  | read key => rfl
  | write key value => exact if_neg elsewhere
  | remove key => exact if_neg elsewhere

theorem key_of_mem_reports {access : StoreAccess} {text : Option String} {change : Change}
    (told : change ∈ access.reports text) : change.key = access.key := by
  cases access with
  | read key => simp [reports] at told
  | write key value =>
      have same : change = ⟨key, some value⟩ := by simpa [reports] using told
      rw [same, StoreAccess.key]
  | remove key =>
      have same : text.isSome ∧ change = ⟨key, none⟩ := by simpa [reports] using told
      rw [same.2, StoreAccess.key]

end StoreAccess

theorem accessed_append {σ : Type} [PreferenceStore σ] (store : σ)
    (first second : List StoreAccess) :
    accessed store (first ++ second) = accessed (accessed store first) second := by
  induction first generalizing store with
  | nil => rfl
  | cons access rest later => exact later _

section
variable {σ : Type} [PreferenceStore σ] [WorkingStore σ] {store other : σ}

theorem content_access (works : Works store) (access : StoreAccess) (key : String) :
    content (access.on store) key = access.leaves key (content store key) := by
  cases access with
  | read place => exact congrFun (content_read place works) key
  | write place value => exact content_write place value key works
  | remove place => exact content_remove place key works

theorem reported_access (works : Works store) (access : StoreAccess) :
    reported (access.on store) = reported store ++ access.reports (content store access.key) := by
  cases access with
  | read place =>
      have silent := feed_read place works
      simp [reported, StoreAccess.on, StoreAccess.reports, silent]
  | write place value =>
      have told := feed_write place value works
      simp [reported, StoreAccess.on, StoreAccess.reports, told, ChangeFeed.report]
  | remove place =>
      have told := feed_remove place works
      by_cases present : (content store place).isSome
      · simp [reported, StoreAccess.on, StoreAccess.reports, StoreAccess.key, told, present,
          ChangeFeed.report]
      · simp [reported, StoreAccess.on, StoreAccess.reports, StoreAccess.key, told, present]

/-- Two stores that work hold the same texts under these keys. -/
structure AgreeOn (own : String → Prop) (store other : σ) : Prop where
  works : Works store
  otherWorks : Works other
  texts : ∀ key, own key → content store key = content other key

/-- They have also reported the same of these keys. -/
structure TellAlike (own : String → Prop) [DecidablePred own] (store other : σ) : Prop
    extends AgreeOn own store other where
  reports : (reported store).filter (fun change => decide (own change.key)) =
    (reported other).filter (fun change => decide (own change.key))

variable {own : String → Prop}

theorem AgreeOn.weaken {fewer : String → Prop} (agree : AgreeOn own store other)
    (within : ∀ key, fewer key → own key) : AgreeOn fewer store other := by
  refine ⟨agree.works, agree.otherWorks, ?_⟩
  intro key inside
  exact agree.texts key (within key inside)

theorem AgreeOn.read (agree : AgreeOn own store other) {key : String} (inside : own key) :
    (PreferenceStore.read store key).1 = (PreferenceStore.read other key).1 := by
  rw [value_read key agree.works, value_read key agree.otherWorks]
  exact agree.texts key inside

theorem AgreeOn.access (agree : AgreeOn own store other) (access : StoreAccess) :
    AgreeOn own (access.on store) (access.on other) := by
  obtain ⟨works, otherWorks, texts⟩ := agree
  refine ⟨works_access works access, works_access otherWorks access, ?_⟩
  intro key inside
  rw [content_access works, content_access otherWorks, texts key inside]

theorem AgreeOn.accessed (agree : AgreeOn own store other) (accesses : List StoreAccess) :
    AgreeOn own (accessed store accesses) (accessed other accesses) := by
  induction accesses generalizing store other with
  | nil => exact agree
  | cons access rest later => exact later (agree.access access)

variable [DecidablePred own]

theorem TellAlike.refl (works : Works store) : TellAlike own store store :=
  ⟨⟨works, works, fun _ _ => rfl⟩, rfl⟩

theorem TellAlike.trans {third : σ} (first : TellAlike own store other)
    (second : TellAlike own other third) : TellAlike own store third := by
  refine ⟨⟨first.works, second.otherWorks, ?_⟩, first.reports.trans second.reports⟩
  intro key inside
  exact (first.texts key inside).trans (second.texts key inside)

theorem TellAlike.access (alike : TellAlike own store other) {access : StoreAccess}
    (inside : own access.key) : TellAlike own (access.on store) (access.on other) := by
  refine ⟨alike.toAgreeOn.access access, ?_⟩
  rw [reported_access alike.works, reported_access alike.otherWorks,
    alike.texts access.key inside, List.filter_append, List.filter_append, alike.reports]

/-- What is done elsewhere is not seen under these keys. -/
theorem tellAlike_of_elsewhere (works : Works store) {access : StoreAccess}
    (outside : ¬ own access.key) : TellAlike own (access.on store) store := by
  refine ⟨⟨works_access works access, works, ?_⟩, ?_⟩
  · intro key inside
    have elsewhere : key ≠ access.key := by
      rintro rfl
      exact outside inside
    rw [content_access works, StoreAccess.leaves_of_ne elsewhere]
  · have unseen : (access.reports (content store access.key)).filter
        (fun change => decide (own change.key)) = [] := by
      rw [List.filter_eq_nil_iff]
      intro change told
      rw [StoreAccess.key_of_mem_reports told]
      simpa using outside
    rw [reported_access works, List.filter_append, unseen, List.append_nil]

theorem TellAlike.accessed (alike : TellAlike own store other) {accesses : List StoreAccess}
    (inside : ∀ access ∈ accesses, own access.key) :
    TellAlike own (accessed store accesses) (accessed other accesses) := by
  induction accesses generalizing store other with
  | nil => exact alike
  | cons access rest later =>
      have first : own access.key := inside access List.mem_cons_self
      exact later (alike.access first) (fun next among => inside next (List.mem_cons_of_mem _ among))

theorem tellAlike_accessed_of_elsewhere (works : Works store) {accesses : List StoreAccess}
    (outside : ∀ access ∈ accesses, ¬ own access.key) :
    TellAlike own (accessed store accesses) store := by
  induction accesses generalizing store with
  | nil => exact .refl works
  | cons access rest later =>
      have first : ¬ own access.key := outside access List.mem_cons_self
      have further := later (works_access works access)
        (fun next among => outside next (List.mem_cons_of_mem _ among))
      exact further.trans (tellAlike_of_elsewhere works first)

end

end AdaptiveView

import AdaptiveView.Preference.Feed

/-!
# Preference stores

A store keeps texts under keys for all screens.  Reading never fails: a store that cannot answer
gives nothing.  A write or a removal either takes effect and is reported, or fails and changes
nothing.

The preferences of a screen stand under keys that begin with its name, and the version of their
meaning stands beside them.  A screen that finds another version starts again without preferences.
-/

set_option autoImplicit false

namespace AdaptiveView

/-- A write or a removal that did not take effect. -/
inductive StoreError where
  | refused
  deriving DecidableEq, Repr

class PreferenceStore (σ : Type) where
  read : σ → String → Option String × σ
  write : σ → String → String → Except StoreError Unit × σ
  /-- Removes a key; a key that is absent is no failure and no change. -/
  remove : σ → String → Except StoreError Unit × σ
  feed : σ → ChangeFeed

/-- The version of the meaning of the keys. -/
def preferenceVersion : String := "1"

def screenKey (screen name : String) : String :=
  screen ++ "." ++ name

def versionKey (screen : String) : String :=
  screenKey screen "prefs_version"

section
variable {σ : Type} [PreferenceStore σ]

/-- Writes a key; what did not take effect is passed over. -/
def save (store : σ) (key value : String) : σ :=
  (PreferenceStore.write store key value).2

/-- Removes preferences of a screen, each as far as it can be. -/
def forgetScreen (store : σ) (screen : String) (names : List String) : σ :=
  names.foldl (fun store name => (PreferenceStore.remove store (screenKey screen name)).2) store

/-- Makes sure that the preferences of a screen have the current meaning, and tells whether they had
another one and were removed. -/
def upgradeScreen (store : σ) (screen : String) (names : List String) : Bool × σ :=
  let (stored, store) := PreferenceStore.read store (versionKey screen)
  if stored = some preferenceVersion then (false, store)
  else
    let store := if stored.isSome then forgetScreen store screen names else store
    (stored.isSome, save store (versionKey screen) preferenceVersion)

end

end AdaptiveView

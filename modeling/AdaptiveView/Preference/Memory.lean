import AdaptiveView.Preference.Entries
import AdaptiveView.Preference.Store

/-!
# The store in memory

Entries that live as long as the program.  Nothing ever fails.
-/

set_option autoImplicit false

namespace AdaptiveView

structure MemoryStore where
  entries : Entries
  feed : ChangeFeed

namespace MemoryStore

def new : MemoryStore := ⟨.empty, .new⟩

instance : PreferenceStore MemoryStore where
  read store key := (store.entries.get? key, store)
  write store key value :=
    (.ok (), ⟨store.entries.insert key value, store.feed.report key (some value)⟩)
  remove store key :=
    if (store.entries.get? key).isSome then
      (.ok (), ⟨store.entries.erase key, store.feed.report key none⟩)
    else (.ok (), store)
  feed store := store.feed

@[simp]
theorem read_write (store : MemoryStore) (key value other : String) :
    (PreferenceStore.read (PreferenceStore.write store key value).2 other).1 =
      if other = key then some value else (PreferenceStore.read store other).1 :=
  Entries.get?_insert store.entries key value other

@[simp]
theorem read_remove (store : MemoryStore) (key other : String) :
    (PreferenceStore.read (PreferenceStore.remove store key).2 other).1 =
      if other = key then none else (PreferenceStore.read store other).1 := by
  cases stored : store.entries.get? key with
  | some value => simp [PreferenceStore.read, PreferenceStore.remove, stored]
  | none =>
      by_cases same : other = key <;>
        simp [PreferenceStore.read, PreferenceStore.remove, same, stored]

end MemoryStore

end AdaptiveView

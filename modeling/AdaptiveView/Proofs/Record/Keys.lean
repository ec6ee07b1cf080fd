import AdaptiveView.Account
import AdaptiveView.Email
import Mathlib.Logic.Function.Basic

/-!
# Keys of classifications

No two values of a classification have the same key, so that keys can stand for values.
-/

set_option autoImplicit false

namespace AdaptiveView

/-- Values of a classification with the same key are the same. -/
class DistinctKeys (R : Type) [Record R] : Prop where
  status : Function.Injective (Classifier.key : Record.Status R → String)
  category : Function.Injective (Classifier.key : Record.Category R → String)
  secondary : Function.Injective (Classifier.key : Record.Secondary R → String)

theorem AccountStatus.key_injective : Function.Injective AccountStatus.key :=
  Function.LeftInverse.injective AccountStatus.ofText_key

theorem Provider.key_injective : Function.Injective Provider.key :=
  Function.LeftInverse.injective Provider.ofText_key

theorem SyncStatus.key_injective : Function.Injective SyncStatus.key := by
  intro one other same
  cases one <;> cases other <;> simp [SyncStatus.key] at same ⊢

theorem ReadState.key_injective : Function.Injective ReadState.key := by
  intro one other same
  cases one <;> cases other <;> simp [ReadState.key] at same ⊢

theorem EmailCategory.key_injective : Function.Injective EmailCategory.key := by
  intro one other same
  cases one <;> cases other <;> simp [EmailCategory.key] at same ⊢

theorem AttachmentState.key_injective : Function.Injective AttachmentState.key := by
  intro one other same
  cases one <;> cases other <;> simp [AttachmentState.key] at same ⊢

instance : DistinctKeys Account :=
  ⟨AccountStatus.key_injective, Provider.key_injective, SyncStatus.key_injective⟩

instance : DistinctKeys Email :=
  ⟨ReadState.key_injective, EmailCategory.key_injective, AttachmentState.key_injective⟩

end AdaptiveView

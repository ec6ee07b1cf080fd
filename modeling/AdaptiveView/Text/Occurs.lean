/-!
# Occurrence of one text in another
-/

set_option autoImplicit false

namespace AdaptiveView.Text

/-- Whether `needle` stands somewhere in the characters without a gap. -/
def occursIn (needle : List Char) : List Char → Bool
  | [] => needle.isEmpty
  | c :: rest => needle.isPrefixOf (c :: rest) || occursIn needle rest

/-- Whether `needle` stands somewhere in `text`. -/
def contains (text needle : String) : Bool :=
  occursIn needle.toList text.toList

theorem occursIn_iff (needle text : List Char) :
    occursIn needle text = true ↔ ∃ before after, text = before ++ needle ++ after := by
  induction text with
  | nil =>
      constructor
      · intro h
        exact ⟨[], [], by simpa [occursIn] using h⟩
      · rintro ⟨before, after, h⟩
        have : needle = [] := by simp_all
        simp [occursIn, this]
  | cons c rest ih =>
      simp only [occursIn, Bool.or_eq_true, List.isPrefixOf_iff_prefix, ih]
      constructor
      · rintro (⟨after, h⟩ | ⟨before, after, h⟩)
        · exact ⟨[], after, by simpa using h.symm⟩
        · exact ⟨c :: before, after, by simp [h]⟩
      · rintro ⟨before, after, h⟩
        cases before with
        | nil => exact Or.inl ⟨after, by simpa using h.symm⟩
        | cons b before =>
            simp only [List.cons_append, List.cons.injEq] at h
            exact Or.inr ⟨before, after, h.2⟩

end AdaptiveView.Text

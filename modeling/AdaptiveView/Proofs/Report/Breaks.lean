import AdaptiveView.Proofs.Calendar.Written
import AdaptiveView.Report.PlanText
import Mathlib.Algebra.Order.BigOperators.Group.List

/-!
# Line breaks in reports

A report is a list of lines, each closed by a line end.  Read back, it has one more line for every line
break inside of one of them, so that it has the lines that were written exactly if they hold none.
Numbers, dates, sizes and lengths hold none.
-/

set_option autoImplicit false

namespace AdaptiveView

open AdaptiveView.Calendar AdaptiveView.Decimal

/-! ## The lines of a text -/

/-- A line end closes a line, and what is left after the last one is a line too. -/
def linesIn : List Char → List (List Char)
  | [] => []
  | c :: rest =>
      if c = '\n' then [] :: linesIn rest
      else
        match linesIn rest with
        | [] => [[c]]
        | line :: lines => (c :: line) :: lines

def textLines (text : String) : List String :=
  (linesIn text.toList).map String.ofList

/-- How many line ends a text holds. -/
def breaks (text : String) : Nat :=
  text.toList.count '\n'

/-- The text that these lines make, each with its end. -/
def closed (lines : List String) : String :=
  String.join (lines.map (· ++ "\n"))

theorem linesIn_break (rest : List Char) : linesIn ('\n' :: rest) = [] :: linesIn rest :=
  if_pos rfl

theorem linesIn_cons {c : Char} (other : c ≠ '\n') {rest line : List Char}
    {lines : List (List Char)} (found : linesIn rest = line :: lines) :
    linesIn (c :: rest) = (c :: line) :: lines := by
  rw [linesIn, if_neg other, found]

theorem linesIn_closed {cs : List Char} (unbroken : '\n' ∉ cs) (rest : List Char) :
    linesIn (cs ++ '\n' :: rest) = cs :: linesIn rest := by
  induction cs with
  | nil => exact linesIn_break rest
  | cons c cs ih =>
      rw [List.mem_cons, not_or] at unbroken
      obtain ⟨other, unbroken⟩ := unbroken
      exact linesIn_cons (Ne.symm other) (ih unbroken)

theorem length_linesIn_closed (cs rest : List Char) :
    (linesIn (cs ++ '\n' :: rest)).length = cs.count '\n' + 1 + (linesIn rest).length := by
  induction cs with
  | nil =>
      rw [List.nil_append, linesIn_break, List.length_cons, List.count_nil]
      omega
  | cons c cs ih =>
      by_cases same : c = '\n'
      · rw [same, List.cons_append, linesIn_break, List.length_cons, ih, List.count_cons_self]
        omega
      · cases found : linesIn (cs ++ '\n' :: rest) with
        | nil =>
            rw [found, List.length_nil] at ih
            omega
        | cons line lines =>
            rw [found] at ih
            rw [List.cons_append, linesIn_cons same found, List.count_cons_of_ne same, ← ih]
            rfl

theorem toList_closed_cons (line : String) (lines : List String) :
    (closed (line :: lines)).toList = line.toList ++ '\n' :: (closed lines).toList := by
  simp [closed]

/-- A line counts once more for every break that it holds. -/
theorem length_textLines_closed (lines : List String) :
    (textLines (closed lines)).length = lines.length + (lines.map breaks).sum := by
  simp only [textLines, List.length_map]
  induction lines with
  | nil => rfl
  | cons line lines ih =>
      rw [toList_closed_cons, length_linesIn_closed, ih, List.map_cons, List.sum_cons,
        List.length_cons, breaks]
      omega

theorem textLines_closed {lines : List String} (unbroken : ∀ line ∈ lines, breaks line = 0) :
    textLines (closed lines) = lines := by
  induction lines with
  | nil => rfl
  | cons line lines ih =>
      rw [List.forall_mem_cons] at unbroken
      obtain ⟨first, rest⟩ := unbroken
      have apart : '\n' ∉ line.toList := List.count_eq_zero.mp first
      rw [textLines, toList_closed_cons, linesIn_closed apart, List.map_cons, String.ofList_toList]
      exact congrArg (line :: ·) (ih rest)

theorem textLines_closed_iff (lines : List String) :
    textLines (closed lines) = lines ↔ (lines.map breaks).sum = 0 := by
  constructor
  · intro same
    have length := length_textLines_closed lines
    rw [same] at length
    omega
  · intro none
    apply textLines_closed
    intro line among
    exact List.sum_eq_zero_iff.mp none _ (List.mem_map_of_mem among)

/-! ## Texts without breaks -/

@[simp]
theorem breaks_append (one other : String) : breaks (one ++ other) = breaks one + breaks other := by
  rw [breaks, String.toList_append, List.count_append]
  rfl

/-- For texts that are given: whether they hold a break can be decided. -/
theorem breaks_solid {text : String} (solid : '\n' ∉ text.toList) : breaks text = 0 :=
  List.count_eq_zero.mpr solid

theorem breaks_ofList {cs : List Char} (solid : ∀ c ∈ cs, c ≠ '\n') :
    breaks (String.ofList cs) = 0 := by
  apply breaks_solid
  rw [String.toList_ofList]
  intro among
  exact solid '\n' among rfl

/-- What is joined by texts without breaks has the breaks of its parts. -/
theorem breaks_intercalate {separator : String} (solid : breaks separator = 0)
    (parts : List String) : breaks (separator.intercalate parts) = (parts.map breaks).sum := by
  rw [breaks, String.toList_intercalate]
  induction parts with
  | nil => rfl
  | cons first rest ih =>
      cases rest with
      | nil =>
          rw [List.map_singleton, List.intercalate_singleton, List.map_singleton,
            List.sum_singleton]
          rfl
      | cons second rest =>
          rw [List.map_cons, List.map_cons, List.intercalate_cons_cons, List.count_append,
            List.count_append, ← List.map_cons, ih]
          have separates : separator.toList.count '\n' = 0 := solid
          rw [separates]
          rfl

theorem ne_break_of_isDigit {c : Char} (digit : c.isDigit = true) : c ≠ '\n' := by
  rintro rfl
  exact absurd digit (by decide)

theorem AreDigits.solid {cs : List Char} (digits : AreDigits cs) : ∀ c ∈ cs, c ≠ '\n' :=
  fun c among => ne_break_of_isDigit (digits.all c among)

@[simp]
theorem breaks_natText (n : Nat) : breaks (natText n) = 0 :=
  breaks_ofList (AreDigits.solid (areDigits_digitsOf n))

theorem solid_yearChars (year : Int) : ∀ c ∈ yearChars year, c ≠ '\n' := by
  refine List.forall_mem_append.mpr ⟨?_, AreDigits.solid (areDigits_paddedDigits 4 _)⟩
  split
  · exact List.forall_mem_singleton.mpr (by decide)
  · split
    · exact List.forall_mem_singleton.mpr (by decide)
    · exact List.forall_mem_nil _

theorem breaks_shortText (t : Instant) : breaks t.shortText = 0 := by
  have padded := fun n => AreDigits.solid (areDigits_paddedDigits 2 n)
  apply breaks_ofList
  simp only [dayChars, minuteChars, List.forall_mem_append, List.forall_mem_cons]
  exact ⟨⟨⟨solid_yearChars _, by decide, padded _⟩, by decide, padded _⟩, by decide, padded _,
    by decide, padded _⟩

@[simp]
theorem breaks_dateText (t : Option Instant) : breaks (dateText t) = 0 := by
  cases t with
  | none => decide
  | some t => exact breaks_shortText t

theorem solid_fixedChars (places num den : Nat) : ∀ c ∈ fixedChars places num den, c ≠ '\n' := by
  have digits := fun n => AreDigits.solid (areDigits_digitsOf n)
  unfold fixedChars
  dsimp only
  split
  · exact digits _
  · simp only [List.forall_mem_append, List.forall_mem_cons]
    refine ⟨⟨digits _, by decide, ?_⟩, digits _⟩
    intro c among
    rw [List.eq_of_mem_replicate among]
    decide

@[simp]
theorem breaks_fixedText (places : Nat) (x : Float) : breaks (fixedText places x) = 0 := by
  unfold fixedText
  split
  · decide
  · split
    · split <;> decide
    · apply breaks_ofList
      refine List.forall_mem_append.mpr ⟨?_, solid_fixedChars _ _ _⟩
      split
      · exact List.forall_mem_singleton.mpr (by decide)
      · exact List.forall_mem_nil _

@[simp]
theorem breaks_sizeText (bytes : Option Nat) : breaks (sizeText bytes) = 0 := by
  cases bytes with
  | none => decide
  | some bytes =>
      simp only [sizeText]
      split
      · rw [breaks_append, breaks_natText]
        decide
      · split
        · rw [breaks_append, breaks_fixedText]
          decide
        · rw [breaks_append, breaks_fixedText]
          decide

end AdaptiveView

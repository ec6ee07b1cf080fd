import AdaptiveView.Json.Reader
import AdaptiveView.Proofs.Decimal.Digits
import Mathlib.Data.List.Induction

/-!
# Numerals written and read

A numeral that is written out is read back part by part, wherever no further part can follow it.  A
count of 64 bits is written as its digits and read back as itself.
-/

set_option autoImplicit false

namespace AdaptiveView.Json

open AdaptiveView.Decimal

/-! ## The text of a numeral -/

def pointChars : Option (List Char) → List Char
  | none => []
  | some digits => '.' :: digits

/-- An exponent with its sign. -/
def powerChars : Option (Bool × List Char) → List Char
  | none => []
  | some (isNegative, digits) => 'e' :: (if isNegative then '-' else '+') :: digits

def Numeral.chars (n : Numeral) : List Char :=
  (if n.isNegative then ['-'] else []) ++ n.whole ++ pointChars n.places ++ powerChars n.exponent

/-- Every part has digits, and there is no zero in front. -/
structure Numeral.Proper (n : Numeral) : Prop where
  whole : AreDigits n.whole
  lead : 1 < n.whole.length → n.whole.head? ≠ some '0'
  places : ∀ digits, n.places = some digits → AreDigits digits
  exponent : ∀ isNegative digits, n.exponent = some (isNegative, digits) → AreDigits digits

theorem Numeral.Proper.first {n : Numeral} (proper : n.Proper) :
    ∃ c tail, n.chars = c :: tail ∧ (c = '-' ∨ c.isDigit = true) := by
  obtain ⟨isNegative, whole, places, exponent⟩ := n
  cases isNegative with
  | true => exact ⟨'-', _, rfl, .inl rfl⟩
  | false =>
      cases whole with
      | nil => exact absurd rfl proper.whole.nonempty
      | cons c whole => exact ⟨c, _, rfl, .inr (proper.whole.all c List.mem_cons_self)⟩

/-- What may follow a numeral: neither a digit nor the beginning of another part. -/
def EndsNumeral (rest : List Char) : Prop :=
  ∀ c, rest.head? = some c → c.isDigit = false ∧ c ≠ '.' ∧ c ≠ 'e' ∧ c ≠ 'E'

theorem EndsNumeral.endsDigits {rest : List Char} (ends : EndsNumeral rest) : EndsDigits rest :=
  fun c first => (ends c first).1

theorem requireDigits_append {cs rest : List Char} (digits : AreDigits cs)
    (ends : EndsDigits rest) : requireDigits (cs ++ rest) = .ok (cs, rest) := by
  simp [requireDigits, takeWhile_digits digits.all ends, dropWhile_digits digits.all ends,
    digits.nonempty]

theorem endsDigits_powerChars {exponent : Option (Bool × List Char)} {rest : List Char}
    (ends : EndsNumeral rest) : EndsDigits (powerChars exponent ++ rest) := by
  rcases exponent with _ | ⟨isNegative, digits⟩
  · exact ends.endsDigits
  · exact endsDigits_cons (by decide)

theorem endsDigits_pointChars {places : Option (List Char)} {rest : List Char}
    (ends : EndsDigits rest) : EndsDigits (pointChars places ++ rest) := by
  rcases places with _ | digits
  · exact ends
  · exact endsDigits_cons (by decide)

theorem readSign_append {isNegative : Bool} {cs : List Char} (other : cs.head? ≠ some '-') :
    readSign ((if isNegative then ['-'] else []) ++ cs) = (isNegative, cs) := by
  cases isNegative with
  | true => rfl
  | false =>
      simp only [Bool.false_eq_true, if_false, List.nil_append]
      unfold readSign
      split
      · exact absurd rfl other
      · rfl

theorem readWhole_append {whole rest : List Char} (digits : AreDigits whole)
    (lead : 1 < whole.length → whole.head? ≠ some '0') (ends : EndsDigits rest) :
    readWhole (whole ++ rest) = .ok (whole, rest) := by
  have fine : ¬ (1 < whole.length ∧ whole.head? = some '0') := fun zero => lead zero.1 zero.2
  simp only [readWhole, requireDigits_append digits ends, if_neg fine]

theorem readPlaces_append {places : Option (List Char)} {rest : List Char}
    (digits : ∀ found, places = some found → AreDigits found) (ends : EndsDigits rest)
    (other : rest.head? ≠ some '.') : readPlaces (pointChars places ++ rest) = .ok (places, rest) := by
  cases places with
  | none =>
      simp only [pointChars, List.nil_append]
      unfold readPlaces
      split
      · exact absurd rfl other
      · rfl
  | some found =>
      simp only [pointChars, List.cons_append, readPlaces, Except.map,
        requireDigits_append (digits found rfl) ends]

theorem readPower_append {exponent : Option (Bool × List Char)} {rest : List Char}
    (digits : ∀ isNegative found, exponent = some (isNegative, found) → AreDigits found)
    (ends : EndsNumeral rest) : readPower (powerChars exponent ++ rest) = .ok (exponent, rest) := by
  rcases exponent with _ | ⟨isNegative, found⟩
  · cases rest with
    | nil => rfl
    | cons c rest =>
        obtain ⟨-, -, small, capital⟩ := ends c rfl
        simp [powerChars, readPower, small, capital]
  · have ends := requireDigits_append (digits isNegative found rfl) ends.endsDigits
    cases isNegative <;> simp [powerChars, readPower, ends, Except.map]

theorem readNumeral_chars {n : Numeral} (proper : n.Proper) {rest : List Char}
    (ends : EndsNumeral rest) : readNumeral (n.chars ++ rest) = .ok (n, rest) := by
  obtain ⟨isNegative, whole, places, exponent⟩ := n
  obtain ⟨wholeDigits, lead, placesDigits, exponentDigits⟩ := proper
  have noSign : (whole ++ (pointChars places ++ (powerChars exponent ++ rest))).head? ≠
      some '-' := by
    intro minus
    have digit : ('-').isDigit = true := by
      apply wholeDigits.all
      cases whole with
      | nil => exact absurd rfl wholeDigits.nonempty
      | cons c whole =>
          cases minus
          exact List.mem_cons_self
    exact absurd digit (by decide)
  have noPoint : (powerChars exponent ++ rest).head? ≠ some '.' := by
    rcases exponent with _ | ⟨isNegative, digits⟩
    · intro point
      exact (ends '.' point).2.1 rfl
    · simp [powerChars]
  have afterPoint : EndsDigits (powerChars exponent ++ rest) := endsDigits_powerChars ends
  have afterWhole : EndsDigits (pointChars places ++ (powerChars exponent ++ rest)) :=
    endsDigits_pointChars afterPoint
  simp only [Numeral.chars, List.append_assoc, readNumeral, readSign_append noSign,
    readWhole_append wholeDigits lead afterWhole,
    readPlaces_append placesDigits afterPoint noPoint, readPower_append exponentDigits ends,
    bind, Except.bind, pure, Except.pure]

theorem readNumber_chars {n : Numeral} (proper : n.Proper) {rest : List Char}
    (ends : EndsNumeral rest) :
    ∃ shorter : rest.length < (n.chars ++ rest).length,
      readNumber (n.chars ++ rest) = ⟨.number n.value, some ⟨rest, shorter⟩⟩ := by
  have shorter : rest.length < (n.chars ++ rest).length := by
    have digits := List.length_pos_iff.mpr proper.whole.nonempty
    simp only [Numeral.chars, List.length_append]
    omega
  refine ⟨shorter, ?_⟩
  simp only [readNumber, readNumeral_chars proper ends, dif_pos shorter]

/-! ## Counts -/

theorem foldl_pushWhole {cs : List Char} (fits : ofDigits cs < countLimit) :
    cs.foldl Significand.pushWhole ⟨0, 0⟩ = ⟨ofDigits cs, 0⟩ := by
  induction cs using List.reverseRecOn with
  | nil => rfl
  | append_singleton cs c shorter =>
      rw [ofDigits_append_singleton] at fits
      rw [List.foldl_append, shorter (by omega), ofDigits_append_singleton]
      simpa [Significand.pushWhole] using fits

/-- The digits of a count, and nothing else. -/
def countNumeral (n : Nat) : Numeral :=
  ⟨false, digitsOf n, none, none⟩

theorem proper_countNumeral (n : Nat) : (countNumeral n).Proper where
  whole := areDigits_digitsOf n
  lead := head_digitsOf n
  places := by
    intro digits given
    cases given
  exponent := by
    intro isNegative digits given
    cases given

theorem chars_countNumeral (n : Nat) : (countNumeral n).chars = digitsOf n := by
  simp [Numeral.chars, countNumeral, pointChars, powerChars]

theorem value_countNumeral {n : Nat} (fits : n < countLimit) :
    (countNumeral n).value = .ok (.unsigned n) := by
  have lead : (digitsOf n).foldl Significand.pushWhole ⟨0, 0⟩ = ⟨n, 0⟩ := by
    rw [foldl_pushWhole (by rwa [ofDigits_digitsOf]), ofDigits_digitsOf]
  simp [Numeral.value, countNumeral, lead]

end AdaptiveView.Json

import AdaptiveView.Json.Decode
import AdaptiveView.Proofs.Json.Rendered

/-!
# Doubles written as numerals

The shortest text of a double is a numeral with a point or an exponent, so it is read as a double and
never as a count.  Which double it is depends on how the parts are put together again, and nothing is
said of that here.
-/

set_option autoImplicit false

namespace AdaptiveView.Decimal

/-! ## The first digit -/

theorem Binary64.onGrid?_pos {x : Binary64} {e : Int} {point : Nat} (nonzero : x.mantissa ≠ 0)
    (h : x.onGrid? e = some point) : 0 < point := by
  rw [Nat.pos_iff_ne_zero]
  rintro rfl
  have up : 0 < Nat.pow 2 (x.exponent - 2).toNat := Nat.pow_pos (by decide)
  have down : 0 < Nat.pow 10 (-e).toNat := Nat.pow_pos (by decide)
  have low : 0 < (4 * x.mantissa - if x.closeBelow then 1 else 2) *
      (Nat.pow 2 (x.exponent - 2).toNat * Nat.pow 10 (-e).toNat) := by
    refine Nat.mul_pos ?_ (Nat.mul_pos up down)
    split <;> omega
  -- zero lies outside of every interval that begins above it
  have outside {lower upper point step : Nat} (positive : 0 < lower) (zero : point = 0)
      (reads : (if x.mantissa % 2 = 0 then
          decide (lower ≤ point * step) && decide (point * step ≤ upper)
        else decide (lower < point * step) && decide (point * step < upper)) = true) : False := by
    rw [zero, Nat.zero_mul] at reads
    split at reads <;> simp only [Bool.and_eq_true, decide_eq_true_eq] at reads <;> omega
  unfold Binary64.onGrid? at h
  dsimp only [binaryScale, decimalScale] at h
  rcases ite_eq_iff.mp h with ⟨reads, same⟩ | ⟨-, h⟩
  · exact outside low (Option.some.inj same) reads
  rcases ite_eq_iff.mp h with ⟨reads, same⟩ | ⟨-, h⟩
  · exact outside low (Option.some.inj same) reads
  · cases h

theorem Scientific.withoutZeros_pos {s : Scientific} (pos : 0 < s.digits) :
    0 < s.withoutZeros.digits := by
  fun_induction Scientific.withoutZeros s with
  | case1 s zero shorter => exact shorter (by simp only; omega)
  | case2 s => exact pos

theorem Binary64.shortest_pos {x : Binary64} (nonzero : x.mantissa ≠ 0) :
    0 < x.shortest.digits := by
  unfold Binary64.shortest
  dsimp only
  split
  case h_1 s found =>
    obtain ⟨e, -, here⟩ := List.exists_of_findSome?_eq_some found
    obtain ⟨point, onGrid, rfl⟩ := Option.map_eq_some_iff.mp here
    exact Scientific.withoutZeros_pos (Binary64.onGrid?_pos nonzero onGrid)
  case h_2 => exact Nat.pos_of_ne_zero nonzero

end AdaptiveView.Decimal

namespace AdaptiveView.Json

open AdaptiveView.Decimal

/-- There is a point or an exponent. -/
def Numeral.Fractional (n : Numeral) : Prop :=
  n.places.isSome ∨ n.exponent.isSome

theorem Numeral.value_fractional {n : Numeral} {number : Number} (fractional : n.Fractional)
    (value : n.value = .ok number) : ∃ x, number = .double x := by
  unfold Numeral.value at value
  dsimp only at value
  split at value
  case isTrue whole =>
    obtain ⟨noPlaces, noExponent, -⟩ := whole
    rcases fractional with some | some
    · rw [Option.isNone_iff_eq_none.mp noPlaces] at some
      cases some
    · rw [Option.isNone_iff_eq_none.mp noExponent] at some
      cases some
  case isFalse =>
    cases magnitude : n.magnitude with
    | error fault =>
        rw [magnitude] at value
        cases value
    | ok x =>
        rw [magnitude] at value
        cases value
        exact ⟨_, rfl⟩

theorem areDigits_zero : AreDigits ['0'] :=
  ⟨by simp, List.forall_mem_singleton.mpr rfl⟩

theorem areDigits_zeros_append (count : Nat) {cs : List Char} (digits : AreDigits cs) :
    AreDigits (Scientific.zeros count ++ cs) where
  nonempty := by simp [digits.nonempty]
  all := by
    intro c among
    rcases List.mem_append.mp among with zero | among
    · rw [List.eq_of_mem_replicate zero]
      rfl
    · exact digits.all c among

theorem areDigits_append_zeros (count : Nat) {cs : List Char} (digits : AreDigits cs) :
    AreDigits (cs ++ Scientific.zeros count) where
  nonempty := by simp [digits.nonempty]
  all := by
    intro c among
    rcases List.mem_append.mp among with among | zero
    · exact digits.all c among
    · rw [List.eq_of_mem_replicate zero]
      rfl

theorem areDigits_take {count : Nat} {cs : List Char} (digits : AreDigits cs) (some : 0 < count) :
    AreDigits (cs.take count) where
  nonempty := by
    simp [List.take_eq_nil_iff, digits.nonempty]
    omega
  all c among := digits.all c (List.mem_of_mem_take among)

theorem areDigits_drop {count : Nat} {cs : List Char} (digits : AreDigits cs)
    (some : count < cs.length) : AreDigits (cs.drop count) where
  nonempty := by simpa [List.drop_eq_nil_iff] using some
  all c among := digits.all c (List.mem_of_mem_drop among)

/-- Digits with a point among them. -/
def positional (whole places : List Char) : Numeral :=
  ⟨false, whole, some places, none⟩

theorem proper_positional {whole places : List Char} (wholeDigits : AreDigits whole)
    (lead : 1 < whole.length → whole.head? ≠ some '0') (placesDigits : AreDigits places) :
    (positional whole places).Proper where
  whole := wholeDigits
  lead := lead
  places := by
    rintro found ⟨⟩
    exact placesDigits
  exponent := by
    rintro isNegative found ⟨⟩

theorem chars_positional (whole places : List Char) :
    (positional whole places).chars = whole ++ '.' :: places := by
  simp [Numeral.chars, positional, pointChars, powerChars]

/-- One digit, further ones after a point if there are any, and an exponent. -/
def scaled (digits : List Char) (exponent : Int) : Numeral :=
  ⟨false, digits.take 1, if digits.length = 1 then none else some (digits.drop 1),
    some (exponent < 0, digitsOf exponent.natAbs)⟩

theorem proper_scaled {digits : List Char} (areDigits : AreDigits digits) (exponent : Int) :
    (scaled digits exponent).Proper where
  whole := areDigits_take areDigits Nat.one_pos
  lead longer := by
    simp only [scaled, List.length_take] at longer
    omega
  places := by
    intro found given
    have length : 0 < digits.length := List.length_pos_iff.mpr areDigits.nonempty
    simp only [scaled] at given
    split at given
    · cases given
    · cases given
      exact areDigits_drop areDigits (by omega)
  exponent := by
    rintro isNegative found ⟨⟩
    exact areDigits_digitsOf _

theorem chars_scaled (digits : List Char) (exponent : Int) :
    (scaled digits exponent).chars =
      digits.take 1 ++ (if digits.length = 1 then [] else '.' :: digits.drop 1) ++
        'e' :: exponentChars exponent := by
  by_cases single : digits.length = 1 <;>
    simp [Numeral.chars, scaled, powerChars, exponentChars, pointChars, single]

/-- The numeral of a decimal whose first digit is not zero. -/
theorem Scientific.exists_numeral {s : Scientific} (pos : 0 < s.digits) :
    ∃ n : Numeral, n.Proper ∧ n.Fractional ∧ n.isNegative = false ∧ n.chars = s.chars := by
  have digits := areDigits_digitsOf s.digits
  have lead := head_digitsOf_of_pos pos
  have length : 0 < (digitsOf s.digits).length := List.length_pos_iff.mpr digits.nonempty
  have leadTake {count : Nat} (some : 0 < count) :
      ((digitsOf s.digits).take count).head? ≠ Option.some '0' := by
    rw [List.head?_take, if_neg (by omega)]
    exact lead
  unfold Scientific.chars
  dsimp only
  split
  case isTrue whole =>
    refine ⟨positional (digitsOf s.digits ++ Scientific.zeros s.exponent.toNat) ['0'], ?_,
      .inl rfl, rfl, chars_positional _ _⟩
    apply proper_positional (areDigits_append_zeros _ digits) _ areDigits_zero
    rw [List.head?_append, List.head?_eq_some_head digits.nonempty, Option.some_or,
      ← List.head?_eq_some_head]
    exact fun _ => lead
  case isFalse fractional =>
    split
    case isTrue inside =>
      have short : (((digitsOf s.digits).length : Int) + s.exponent).toNat <
          (digitsOf s.digits).length := by omega
      exact ⟨positional _ _, proper_positional (areDigits_take digits (by omega))
        (fun _ => leadTake (by omega)) (areDigits_drop digits short), .inl rfl, rfl,
        chars_positional _ _⟩
    case isFalse =>
      split
      case isTrue =>
        exact ⟨positional ['0'] _, proper_positional areDigits_zero (by simp)
          (areDigits_zeros_append _ digits), .inl rfl, rfl, chars_positional _ _⟩
      case isFalse =>
        exact ⟨scaled _ _, proper_scaled digits _, .inr rfl, rfl, chars_scaled _ _⟩

theorem exists_numeral_shortestText (x : Float) :
    ∃ n : Numeral, n.Proper ∧ n.Fractional ∧ (shortestText x).toList = n.chars := by
  unfold shortestText
  dsimp only
  rw [String.toList_ofList]
  obtain ⟨n, ⟨whole, lead, places, exponent⟩, fractional, positive, chars⟩ :
      ∃ n : Numeral, n.Proper ∧ n.Fractional ∧ n.isNegative = false ∧
        n.chars = if (Binary64.ofFloat x).mantissa = 0 then ['0', '.', '0']
          else (Binary64.ofFloat x).shortest.chars := by
    by_cases zero : (Binary64.ofFloat x).mantissa = 0
    · exact ⟨positional ['0'] ['0'], proper_positional areDigits_zero (by simp)
        areDigits_zero, .inl rfl, rfl, by rw [if_pos zero]; rfl⟩
    · rw [if_neg zero]
      exact Scientific.exists_numeral (Binary64.shortest_pos zero)
  refine ⟨{ n with isNegative := (Binary64.ofFloat x).negative }, ⟨whole, lead, places, exponent⟩,
    fractional, ?_⟩
  rw [← chars]
  simp [Numeral.chars, positive]

theorem Document.ofText_numeral {n : Numeral} (proper : n.Proper) {s : String}
    (text : s.toList = n.chars) : Document.ofText s = ⟨.number n.value, none⟩ := by
  obtain ⟨c, tail, first, begins⟩ := proper.first
  have whole : dropSpace s.toList = n.chars ++ [] := by
    rw [text, first, dropSpace_solid _ (isSpace_of_begins begins), List.append_nil]
  apply Document.ofText_of_valueIn
  rw [whole, valueIn_number proper endsNumeral_nil]

/-- The text of the double, read as a document, is the double again. -/
def ReadBack (x : Float) : Prop :=
  takeDocument takeDouble (shortestText x) = .ok x

theorem Number.legible_double {x : Float} (finite : x.isFinite = true) (readBack : ReadBack x) :
    (Number.double x).Legible := by
  obtain ⟨n, proper, fractional, text⟩ := exists_numeral_shortestText x
  rw [ReadBack, takeDocument, Document.ofText_numeral proper text] at readBack
  refine ⟨n, proper, ?_, ?_⟩
  · rw [Number.render, if_pos finite, text]
  · cases value : n.value with
    | error fault =>
        rw [value] at readBack
        cases readBack
    | ok number =>
        obtain ⟨y, rfl⟩ := Numeral.value_fractional fractional value
        rw [value] at readBack
        cases readBack
        rfl

end AdaptiveView.Json

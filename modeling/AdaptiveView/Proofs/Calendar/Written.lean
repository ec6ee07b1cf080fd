import AdaptiveView.Calendar.Rfc3339
import AdaptiveView.Proofs.Decimal.Digits
import Mathlib.Tactic.IntervalCases

/-!
# Dates written and read

Every instant is read back from its text: with each length of the fraction, in a leap second and in
the years that need a sign.
-/

set_option autoImplicit false

namespace AdaptiveView.Calendar

open AdaptiveView.Text AdaptiveView.Decimal

/-! ## Digits with zeros in front -/

theorem areDigits_paddedDigits (width n : Nat) : AreDigits (paddedDigits width n) where
  nonempty := by simp [paddedDigits, Nat.toDigits_ne_nil]
  all := by
    intro c among
    rcases List.mem_append.mp among with zero | among
    · rw [List.eq_of_mem_replicate zero]
      rfl
    · exact (areDigits_digitsOf n).all c among

theorem ofDigits_paddedDigits (width n : Nat) : ofDigits (paddedDigits width n) = n :=
  (ofDigits_zeros_append _ _).trans (ofDigits_digitsOf n)

theorem length_paddedDigits {width n : Nat} (fits : n < 10 ^ width) (wide : 0 < width) :
    (paddedDigits width n).length = width := by
  have short : (Nat.toDigits 10 n).length ≤ width :=
    (Nat.length_toDigits_le_iff (by decide) wide).mpr fits
  simp only [paddedDigits, List.length_append, List.length_replicate]
  omega

theorem isBlank_of_isDigit {c : Char} (digit : c.isDigit = true) : isBlank c = false := by
  have bounds : 48 ≤ c.toNat ∧ c.toNat ≤ 57 := by
    simpa [Char.isDigit, UInt32.le_iff_toNat_le] using digit
  obtain ⟨low, high⟩ := bounds
  rw [← Char.ofNat_toNat c]
  interval_cases c.toNat <;> decide

theorem dropBlanks_cons {c : Char} (solid : isBlank c = false) (rest : List Char) :
    dropBlanks (c :: rest) = c :: rest :=
  List.dropWhile_cons_of_neg (by simp [solid])

theorem dropBlanks_digits {cs rest : List Char} (digits : AreDigits cs) :
    dropBlanks (cs ++ rest) = cs ++ rest := by
  cases cs with
  | nil => exact absurd rfl digits.nonempty
  | cons c cs => exact dropBlanks_cons (isBlank_of_isDigit (digits.all c List.mem_cons_self)) _

/-- A field of fixed width is read where it stands. -/
theorem takeNumber_paddedDigits {width n : Nat} (fits : n < 10 ^ width) (wide : 0 < width)
    (rest : List Char) : takeNumber width (paddedDigits width n ++ rest) = some (n, rest) := by
  have digits := areDigits_paddedDigits width n
  have length := length_paddedDigits fits wide
  have all : (paddedDigits width n).takeWhile Char.isDigit = paddedDigits width n := by
    have whole := takeWhile_digits digits.all endsDigits_nil
    rwa [List.append_nil] at whole
  have front : (paddedDigits width n ++ rest).take width = paddedDigits width n := by
    rw [List.take_append_of_le_length (by omega), List.take_of_length_le (by omega)]
  have left : (paddedDigits width n ++ rest).drop width = rest := by
    rw [List.drop_append_of_le_length (by omega), List.drop_of_length_le (by omega),
      List.nil_append]
  simp [takeNumber, dropBlanks_digits digits, front, all, digits.nonempty,
    ofDigits_paddedDigits, length, left]

theorem takeMark_cons {mark : Char} (solid : isBlank mark = false) (rest : List Char) :
    takeMark mark (mark :: rest) = some rest := by
  simp [takeMark, dropBlanks_cons solid, takeOneOf]

/-- A field of two digits after its mark. -/
theorem takeField {mark : Char} (solid : isBlank mark = false) {n : Nat} (fits : n < 100)
    (rest : List Char) :
    (takeMark mark (mark :: (paddedDigits 2 n ++ rest))).bind (takeNumber 2) = some (n, rest) := by
  rw [takeMark_cons solid, Option.bind_some, takeNumber_paddedDigits fits (by decide)]

/-! ## The parts of a date -/

theorem takeYear_yearChars (year : Int) {rest : List Char} (ends : EndsDigits rest) :
    takeYear (yearChars year ++ rest) = some (year, rest) := by
  have digits := areDigits_paddedDigits 4 year.natAbs
  have split := splitDigits_append digits.all ends
  have value := ofDigits_paddedDigits 4 year.natAbs
  by_cases before : year < 0
  · have sign : dropBlanks ('-' :: (paddedDigits 4 year.natAbs ++ rest)) = _ :=
      dropBlanks_cons (by decide) _
    have negative : -(year.natAbs : Int) = year := by omega
    simp [yearChars, before, takeYear, sign, split, digits.nonempty, value, negative,
      -Nat.cast_natAbs]
  have positive : (year.natAbs : Int) = year := by omega
  by_cases after : 9999 < year
  · have sign : dropBlanks ('+' :: (paddedDigits 4 year.natAbs ++ rest)) = _ :=
      dropBlanks_cons (by decide) _
    simp [yearChars, before, after, takeYear, sign, split, digits.nonempty, value, positive,
      -Nat.cast_natAbs]
  · have number : takeNumber 4 (paddedDigits 4 year.natAbs ++ rest) = some (year.natAbs, rest) :=
      takeNumber_paddedDigits (by omega) (by decide) rest
    rw [yearChars, if_neg before, if_neg after, List.nil_append, takeYear,
      dropBlanks_digits digits]
    split
    case h_1 here => exact absurd (digits.first here) (by decide)
    case h_2 here => exact absurd (digits.first here) (by decide)
    case h_3 => simp only [number, Option.map_some, positive]

theorem takeFraction_group {width value : Nat} (fits : value < 10 ^ width) (wide : 0 < width)
    (short : width ≤ 9) {rest : List Char} (ends : EndsDigits rest) :
    takeFraction ('.' :: (paddedDigits width value ++ rest)) =
      some (value * 10 ^ (9 - width), rest) := by
  have digits := areDigits_paddedDigits width value
  have length := length_paddedDigits fits wide
  have counted : (paddedDigits width value).take 9 = paddedDigits width value :=
    List.take_of_length_le (by omega)
  simp [takeFraction, splitDigits_append digits.all ends, digits.nonempty, counted, length,
    ofDigits_paddedDigits]

theorem takeFraction_fractionChars {nano : Nat} (fits : nano < nanosPerSecond) {rest : List Char}
    (ends : EndsDigits rest) (other : rest.head? ≠ some '.') :
    takeFraction (fractionChars nano ++ rest) = some (nano, rest) := by
  have fits : nano < 1000000000 := fits
  unfold fractionChars
  split
  case isTrue none =>
    subst none
    rw [List.nil_append]
    unfold takeFraction
    split
    · exact absurd rfl other
    · rfl
  case isFalse =>
    split
    case isTrue millis =>
      rw [List.cons_append, takeFraction_group (by omega) (by decide) (by decide) ends]
      congr 2
      omega
    case isFalse =>
      split
      case isTrue micros =>
        rw [List.cons_append, takeFraction_group (by omega) (by decide) (by decide) ends]
        congr 2
        omega
      case isFalse =>
        rw [List.cons_append, takeFraction_group (by omega) (by decide) (by decide) ends]
        congr 2
        omega

/-- The text in the order in which it is read. -/
theorem Instant.chars_eq (t : Instant) : t.chars =
    yearChars t.day.year ++ '-' :: (paddedDigits 2 t.day.month ++
      '-' :: (paddedDigits 2 t.day.dayOfMonth ++
        'T' :: (paddedDigits 2 (t.second / 3600) ++
          ':' :: (paddedDigits 2 (t.second / 60 % 60) ++
            ':' :: (paddedDigits 2 (t.second % 60 + t.nano / nanosPerSecond) ++
              (fractionChars (t.nano % nanosPerSecond) ++ ['Z'])))))) := by
  simp only [chars, dayChars, minuteChars, List.append_assoc, List.cons_append]

/-- What a clock in UTC shows is the instant itself. -/
theorem Instant.ofLocal?_utc (t : Instant) : ofLocal? t.day t.second t.nano 0 = some t := by
  have early : t.second < 86400 := t.clockTime.1
  have noDayBefore : ¬ (t.second : Int) - 0 < 0 := by omega
  have noDayAfter : ¬ 86400 ≤ (t.second : Int) - 0 := by omega
  have same : ((t.second : Int) - 0).toNat = t.second := by omega
  simp only [ofLocal?, t.ofParts?_self, Option.bind_eq_bind, Option.bind_some, if_neg noDayBefore,
    if_neg noDayAfter, same]

/-- The text of an instant is read as that instant. -/
theorem Instant.ofText?_text (t : Instant) : ofText? t.text = some t := by
  obtain ⟨-, -, -, lastMonth, -, lastDay⟩ := t.dayExists
  obtain ⟨early, short, atEnd⟩ := t.clockTime
  have days := daysInMonth_le t.day.year t.day.month
  have extra : t.nano / nanosPerSecond < 2 := Nat.div_lt_of_lt_mul (by omega)
  have dash : isBlank '-' = false := by decide
  have colon : isBlank ':' = false := by decide
  have year (rest : List Char) :
      takeYear (yearChars t.day.year ++ '-' :: rest) = some (t.day.year, '-' :: rest) :=
    takeYear_yearChars _ (endsDigits_cons (by decide))
  have month := takeField dash (show t.day.month < 100 by omega)
  have dayOfMonth := takeField dash (show t.day.dayOfMonth < 100 by omega)
  have hour (rest : List Char) :
      (takeOneOf ['T', 't', ' '] ('T' :: (paddedDigits 2 (t.second / 3600) ++ rest))).bind
        (takeNumber 2) = some (t.second / 3600, rest) :=
    takeNumber_paddedDigits (by omega) (by decide) rest
  have minute := takeField colon (show t.second / 60 % 60 < 100 by omega)
  have second := takeField colon
    (show t.second % 60 + t.nano / nanosPerSecond < 100 by omega)
  have fraction : takeFraction (fractionChars (t.nano % nanosPerSecond) ++ ['Z']) =
      some (t.nano % nanosPerSecond, ['Z']) :=
    takeFraction_fractionChars (Nat.mod_lt _ (by decide)) (endsDigits_cons (by decide)) (by decide)
  have zone : takeOffset ['Z'] = some (0, []) := rfl
  have inRange : (!(dropBlanks []).isEmpty || decide (t.second / 3600 ≥ 24) ||
      decide (t.second / 60 % 60 ≥ 60) ||
      decide (t.second % 60 + t.nano / nanosPerSecond > 60)) = false := by
    have upTo : t.second % 60 + t.nano / nanosPerSecond ≤ 60 := by
      by_cases leap : nanosPerSecond ≤ t.nano
      · have last := atEnd leap
        omega
      · rw [Nat.div_eq_of_lt (by omega)]
        omega
    simp only [dropBlanks, List.dropWhile_nil, List.isEmpty_nil, Bool.not_true, Bool.false_or,
      Bool.or_eq_false_iff, decide_eq_false_iff_not]
    omega
  rw [ofText?, text, String.toList_ofList, t.chars_eq, ofChars?, year]
  simp only [Option.bind_eq_bind, Option.bind_some, month, dayOfMonth, hour, minute, second,
    fraction, zone, inRange, Bool.false_eq_true, if_false]
  by_cases leap : nanosPerSecond ≤ t.nano
  · have last := atEnd leap
    have one : t.nano / nanosPerSecond = 1 := Nat.div_eq_of_lt_le (by omega) (by omega)
    have clock : t.second / 3600 * 3600 + t.second / 60 % 60 * 60 + 59 = t.second := by omega
    have whole : nanosPerSecond + t.nano % nanosPerSecond = t.nano := by
      rw [Nat.mod_eq_sub_mod leap, Nat.mod_eq_of_lt (by omega)]
      omega
    rw [one, last, if_pos rfl, clock, whole, t.ofLocal?_utc]
  · have none : t.nano / nanosPerSecond = 0 := Nat.div_eq_of_lt (by omega)
    have clock : t.second / 3600 * 3600 + t.second / 60 % 60 * 60 + t.second % 60 = t.second := by
      omega
    rw [none, Nat.add_zero, if_neg (by omega), clock, Nat.mod_eq_of_lt (by omega), t.ofLocal?_utc]

end AdaptiveView.Calendar

import AdaptiveView.Decimal.Binary64
import AdaptiveView.Decimal.Reading

/-!
# Digits written and read

The digits that are written for a number are digits only, are never none, have no zero in front, and
read back as the number.  A reader of digits takes as many as there are, so it finds the number again
wherever something else than a digit follows.
-/

set_option autoImplicit false

namespace AdaptiveView.Decimal

/-- At least one character, and digits only. -/
structure AreDigits (cs : List Char) : Prop where
  nonempty : cs ≠ []
  all : ∀ c ∈ cs, c.isDigit = true

theorem AreDigits.first {cs rest tail : List Char} {c : Char} (digits : AreDigits cs)
    (h : cs ++ rest = c :: tail) : c.isDigit = true := by
  cases cs with
  | nil => exact absurd rfl digits.nonempty
  | cons d cs =>
      cases h
      exact digits.all c List.mem_cons_self

/-- What follows digits and is not one of them. -/
def EndsDigits (rest : List Char) : Prop :=
  ∀ c, rest.head? = some c → c.isDigit = false

theorem endsDigits_nil : EndsDigits [] := by
  intro c first
  cases first

theorem endsDigits_cons {c : Char} {rest : List Char} (other : c.isDigit = false) :
    EndsDigits (c :: rest) := by
  intro d first
  cases first
  exact other

theorem areDigits_digitsOf (n : Nat) : AreDigits (digitsOf n) :=
  ⟨Nat.toDigits_ne_nil, fun _ among =>
    Nat.isDigit_of_mem_toDigits (by decide) (by decide) among⟩

theorem ofDigits_digitsOf (n : Nat) : ofDigits (digitsOf n) = n :=
  Nat.ofDigitChars_toDigits (by decide) (by decide)

theorem head_digitsOf_of_pos {n : Nat} (pos : 0 < n) : (digitsOf n).head? ≠ some '0' := by
  induction n using Nat.strongRecOn with
  | ind n smaller =>
      unfold digitsOf at *
      rw [Nat.toDigits_eq_if (by decide)]
      by_cases single : n < 10
      · rw [if_pos single]
        intro zero
        have value := Nat.toNat_digitChar_of_lt_ten single
        rw [Option.some.inj zero] at value
        have shifted : 48 = 48 + n := value
        omega
      · have first : (Nat.toDigits 10 (n / 10) ++ [(n % 10).digitChar]).head? =
            (Nat.toDigits 10 (n / 10)).head? := by
          rw [List.head?_append, List.head?_eq_some_head Nat.toDigits_ne_nil, Option.some_or]
        rw [if_neg single, first]
        exact smaller (n / 10) (by omega) (by omega)

/-- A number has no zero in front, unless it is zero. -/
theorem head_digitsOf (n : Nat) (longer : 1 < (digitsOf n).length) :
    (digitsOf n).head? ≠ some '0' := by
  apply head_digitsOf_of_pos
  rcases Nat.eq_zero_or_pos n with rfl | pos
  · exact absurd longer (by decide)
  · exact pos

theorem takeWhile_digits {cs rest : List Char} (digits : ∀ c ∈ cs, c.isDigit = true)
    (ends : EndsDigits rest) : (cs ++ rest).takeWhile Char.isDigit = cs := by
  rw [List.takeWhile_append_of_pos digits]
  cases rest with
  | nil => simp
  | cons c rest => simp [ends c rfl]

theorem dropWhile_digits {cs rest : List Char} (digits : ∀ c ∈ cs, c.isDigit = true)
    (ends : EndsDigits rest) : (cs ++ rest).dropWhile Char.isDigit = rest := by
  rw [List.dropWhile_append_of_pos digits]
  cases rest with
  | nil => rfl
  | cons c rest => simp [ends c rfl]

theorem splitDigits_append {cs rest : List Char} (digits : ∀ c ∈ cs, c.isDigit = true)
    (ends : EndsDigits rest) : splitDigits (cs ++ rest) = (cs, rest) := by
  rw [splitDigits, takeWhile_digits digits ends, dropWhile_digits digits ends]

theorem ofDigits_append_singleton (cs : List Char) (c : Char) :
    ofDigits (cs ++ [c]) = 10 * ofDigits cs + (c.toNat - '0'.toNat) := by
  simp [ofDigits, List.foldl_append]

theorem ofDigits_zeros_append (count : Nat) (cs : List Char) :
    ofDigits (List.replicate count '0' ++ cs) = ofDigits cs := by
  induction count with
  | zero => rfl
  | succ count shorter =>
      rw [List.replicate_succ, List.cons_append]
      exact shorter

end AdaptiveView.Decimal

import AdaptiveView.Text.CaseTable

/-!
# Lower case

Two mappings.  `foldCase` takes each character by itself and is what texts are ordered by.
`lowercase` follows the standard's rule for whole texts, in which a capital sigma at the end of a
word becomes a final sigma; it is what searching and domain names use.
-/

set_option autoImplicit false

namespace AdaptiveView.Text

/-- The lower-case form of one character; only a capital I with a dot has two characters. -/
def lowerChar (c : Char) : List Char :=
  if c.toNat < 128 then [c.toLower]
  else if c = 'İ' then ['i', '\u0307']
  else
    match lowerRuns.find? (·.covers c.toNat) with
    | some run => [Char.ofNat (Int.toNat (c.toNat + run.shift))]
    | none => [c]

/-- Whether the first character that case does not pass over is a cased letter. -/
def casedFirst (cs : List Char) : Bool :=
  match cs.dropWhile caseIgnorableRanges.holds with
  | c :: _ => casedRanges.holds c
  | [] => false

/-- The form of a capital sigma between the characters before it, nearest first, and those after. -/
def lowerSigma (before after : List Char) : Char :=
  if casedFirst before && !casedFirst after then 'ς' else 'σ'

/-- Lower case of `rest`, which stands after the characters `before`, nearest first. -/
def lowerAfter (before : List Char) : List Char → List Char
  | [] => []
  | c :: rest =>
      (if c = 'Σ' then [lowerSigma before rest] else lowerChar c) ++ lowerAfter (c :: before) rest

def lowercase (s : String) : String :=
  String.ofList (lowerAfter [] s.toList)

/-- Each character of a text in its own lower-case form. -/
def foldCase (s : String) : String :=
  String.ofList (s.toList.flatMap lowerChar)

/-- Lower case of the letters `A` to `Z`; all else is kept. -/
def asciiLowercase (s : String) : String :=
  String.ofList (s.toList.map Char.toLower)

theorem lowerChar_ne_nil (c : Char) : lowerChar c ≠ [] := by
  unfold lowerChar
  split
  · simp
  · split
    · simp
    · split <;> simp

end AdaptiveView.Text

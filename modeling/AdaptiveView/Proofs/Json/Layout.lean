import AdaptiveView.Proofs.Json.Numerals
import AdaptiveView.Proofs.Json.Quoted

/-!
# Documents written and read

A value is written with blanks between its parts or without.  Whatever the blanks, reading the text
gives the value again, as long as each number in it is read back from its own text.  Counts of 64 bits
are; a double is where reading its digits gives it again.
-/

set_option autoImplicit false

namespace AdaptiveView.Json

open AdaptiveView.Decimal

/-! ## What readers find -/

/-- What is read and what is left, without the proof that this is shorter. -/
def found {T : Type} {p : List Char → Prop} (outcome : T × Option { rest // p rest }) :
    T × Option (List Char) :=
  (outcome.1, outcome.2.map Subtype.val)

theorem eq_of_found {T : Type} {p : List Char → Prop} {outcome : T × Option { rest // p rest }}
    {t : T} {rest : List Char} (h : found outcome = (t, some rest)) :
    ∃ below, outcome = (t, some ⟨rest, below⟩) := by
  obtain ⟨first, left⟩ := outcome
  obtain ⟨rfl, left⟩ := Prod.mk.inj h
  obtain ⟨⟨value, below⟩, rfl, rfl⟩ := Option.map_eq_some_iff.mp left
  exact ⟨below, rfl⟩

def valueIn (cs : List Char) : Node × Option (List Char) := found (readValue cs)
def itemsIn (cs : List Char) : Items × Option (List Char) := found (readItems cs)
def elementsIn (cs : List Char) : Items × Option (List Char) := found (readElements cs)
def membersIn (cs : List Char) : Members × Option (List Char) := found (readMembers cs)
def pairsIn (cs : List Char) : Members × Option (List Char) := found (readPairs cs)

section
variable {cs rest more gap : List Char} {item : Node}

theorem valueIn_array (cs : List Char) :
    valueIn ('[' :: cs) = (.array (itemsIn cs).1, (itemsIn cs).2) := by
  rw [valueIn, itemsIn, readValue]
  rcases readItems cs with ⟨items, _ | left⟩ <;> rfl

theorem valueIn_object (cs : List Char) :
    valueIn ('\x7b' :: cs) = (.object (membersIn cs).1, (membersIn cs).2) := by
  rw [valueIn, membersIn, readValue]
  rcases readMembers cs with ⟨members, _ | left⟩ <;> rfl

theorem valueIn_null (rest : List Char) :
    valueIn ('n' :: 'u' :: 'l' :: 'l' :: rest) = (.null, some rest) := by
  simp [valueIn, readValue, readNamed, readName, found]

theorem valueIn_true (rest : List Char) :
    valueIn ('t' :: 'r' :: 'u' :: 'e' :: rest) = (.bool true, some rest) := by
  simp [valueIn, readValue, readNamed, readName, found]

theorem valueIn_false (rest : List Char) :
    valueIn ('f' :: 'a' :: 'l' :: 's' :: 'e' :: rest) = (.bool false, some rest) := by
  simp [valueIn, readValue, readNamed, readName, found]

theorem valueIn_text (s : String) (rest : List Char) :
    valueIn ((renderText s).toList ++ rest) = (.text (.ok s), some rest) := by
  obtain ⟨shorter, quoted⟩ := readQuoted_escaped s rest
  rw [toList_renderText, List.cons_append, List.append_assoc, List.singleton_append, valueIn,
    readValue, quoted]
  rfl

/-- A character that a number begins with begins nothing else. -/
theorem readValue_eq_readNumber {c : Char} (begins : c = '-' ∨ c.isDigit = true)
    (rest : List Char) :
    readValue (c :: rest) = ((readNumber (c :: rest)).node, (readNumber (c :: rest)).rest) := by
  have elsewhere : ∀ d : Char, d ≠ '-' → d.isDigit = false → c ≠ d := by
    rintro d noMinus noDigit rfl
    rcases begins with minus | digit
    · exact noMinus minus
    · rw [noDigit] at digit
      cases digit
  have noNull : c ≠ 'n' := elsewhere 'n' (by decide) (by decide)
  have noTrue : c ≠ 't' := elsewhere 't' (by decide) (by decide)
  have noFalse : c ≠ 'f' := elsewhere 'f' (by decide) (by decide)
  have number : (decide (c = '-') || c.isDigit) = true := by simpa using begins
  rw [readValue]
  · simp only [if_neg noNull, if_neg noTrue, if_neg noFalse, number, if_true]
  · exact elsewhere '[' (by decide) (by decide)
  · exact elsewhere '\x7b' (by decide) (by decide)
  · exact elsewhere '"' (by decide) (by decide)

theorem valueIn_number {n : Numeral} (proper : n.Proper) (ends : EndsNumeral rest) :
    valueIn (n.chars ++ rest) = (.number n.value, some rest) := by
  obtain ⟨shorter, number⟩ := readNumber_chars proper ends
  obtain ⟨c, tail, first, begins⟩ := proper.first
  have whole : n.chars ++ rest = c :: (tail ++ rest) := by
    rw [first]
    rfl
  have value := readValue_eq_readNumber begins (tail ++ rest)
  rw [← whole] at value
  rw [valueIn, value, number]
  rfl

/-! ## Arrays -/

theorem itemsIn_close (h : dropSpace cs = ']' :: rest) : itemsIn cs = (.close, some rest) := by
  rw [itemsIn, readItems]
  split
  case h_1 nothing =>
    rw [h] at nothing
    cases nothing
  case h_2 after here =>
    rw [h] at here
    cases here
    rfl
  case h_3 c after other here =>
    rw [h] at here
    cases here
    exact absurd rfl other

theorem itemsIn_elements {c : Char} (h : dropSpace cs = c :: rest) (other : c ≠ ']') :
    itemsIn cs = elementsIn (c :: rest) := by
  rw [itemsIn, elementsIn, readItems]
  split
  case h_1 nothing =>
    rw [h] at nothing
    cases nothing
  case h_2 after here =>
    rw [h] at here
    cases here
    exact absurd rfl other
  case h_3 d after _ here =>
    rw [h] at here
    cases here
    rcases readElements (c :: rest) with ⟨items, _ | left⟩ <;> rfl

theorem elementsIn_last (first : valueIn cs = (item, some more))
    (h : dropSpace more = ']' :: rest) : elementsIn cs = (.next item .close, some rest) := by
  obtain ⟨below, value⟩ := eq_of_found first
  rw [elementsIn, readElements, value]
  dsimp only
  split
  case h_1 nothing =>
    rw [h] at nothing
    cases nothing
  case h_2 after here =>
    rw [h] at here
    cases here
    rfl
  case h_3 after here =>
    rw [h] at here
    cases here
  case h_4 c after other _ here =>
    rw [h] at here
    cases here
    exact absurd rfl other

theorem elementsIn_next (first : valueIn cs = (item, some more))
    (h : dropSpace more = ',' :: gap) (another : (dropSpace gap).head? ≠ some ']') :
    elementsIn cs =
      (.next item (elementsIn (dropSpace gap)).1, (elementsIn (dropSpace gap)).2) := by
  obtain ⟨below, value⟩ := eq_of_found first
  simp only [elementsIn]
  rw [readElements, value]
  dsimp only
  split
  case h_1 nothing =>
    rw [h] at nothing
    cases nothing
  case h_2 after here =>
    rw [h] at here
    cases here
  case h_3 after here =>
    rw [h] at here
    cases here
    rw [if_neg another]
    rcases readElements (dropSpace gap) with ⟨items, _ | left⟩ <;> rfl
  case h_4 c after _ other here =>
    rw [h] at here
    cases here
    exact absurd rfl other

/-! ## Objects -/

theorem membersIn_close (h : dropSpace cs = '\x7d' :: rest) :
    membersIn cs = (.close, some rest) := by
  rw [membersIn, readMembers]
  split
  case h_1 after here =>
    rw [h] at here
    cases here
    rfl
  case h_2 other => exact absurd h (other rest)

theorem membersIn_pairs (another : (dropSpace cs).head? ≠ some '\x7d') :
    membersIn cs = pairsIn (dropSpace cs) := by
  rw [membersIn, pairsIn, readMembers]
  split
  case h_1 after here =>
    rw [here] at another
    exact absurd rfl another
  case h_2 other => rcases readPairs (dropSpace cs) with ⟨members, _ | left⟩ <;> rfl

/-- A key, its colon and its value, and what follows them. -/
def Pair (cs : List Char) (key : String) (value : Node) (more : List Char) : Prop :=
  ∃ afterKey afterColon, cs = (renderText key).toList ++ afterKey ∧
    dropSpace afterKey = ':' :: afterColon ∧ valueIn (dropSpace afterColon) = (value, some more)

variable {key : String} {value : Node}

theorem pairsIn_last (first : Pair cs key value more) (h : dropSpace more = '\x7d' :: rest) :
    pairsIn cs = (.next (.ok key) value .close, some rest) := by
  obtain ⟨afterKey, afterColon, rfl, colon, valueFound⟩ := first
  obtain ⟨below, valueRead⟩ := eq_of_found valueFound
  obtain ⟨shorter, keyRead⟩ := readQuoted_escaped key afterKey
  rw [toList_renderText, List.cons_append, List.append_assoc, List.singleton_append, pairsIn,
    readPairs, keyRead]
  dsimp only
  split
  case h_1 after here =>
    rw [colon] at here
    cases here
    rw [valueRead]
    dsimp only
    split
    case h_1 last here =>
      rw [h] at here
      cases here
      rfl
    case h_2 next here =>
      rw [h] at here
      cases here
    case h_3 other _ => exact absurd h (other rest)
  case h_2 other => exact absurd colon (other afterColon)

theorem pairsIn_next (first : Pair cs key value more) (h : dropSpace more = ',' :: gap) :
    pairsIn cs =
      (.next (.ok key) value (pairsIn (dropSpace gap)).1, (pairsIn (dropSpace gap)).2) := by
  obtain ⟨afterKey, afterColon, rfl, colon, valueFound⟩ := first
  obtain ⟨below, valueRead⟩ := eq_of_found valueFound
  obtain ⟨shorter, keyRead⟩ := readQuoted_escaped key afterKey
  rw [toList_renderText, List.cons_append, List.append_assoc, List.singleton_append]
  simp only [pairsIn]
  rw [readPairs, keyRead]
  dsimp only
  split
  case h_1 after here =>
    rw [colon] at here
    cases here
    rw [valueRead]
    dsimp only
    split
    case h_1 last here =>
      rw [h] at here
      cases here
    case h_2 next here =>
      rw [h] at here
      cases here
      rcases readPairs (dropSpace gap) with ⟨members, _ | left⟩ <;> rfl
    case h_3 _ other => exact absurd h (other gap)
  case h_2 other => exact absurd colon (other afterColon)

end

/-! ## Values with their blanks -/

/-- The blanks of a text: before each part of a block and before its closing bracket, by the depth of
the block, and after a colon. -/
structure Layout where
  inner : Nat → List Char
  outer : Nat → List Char
  colon : List Char
  inner_blank : ∀ depth, ∀ c ∈ inner depth, isSpace c = true
  outer_blank : ∀ depth, ∀ c ∈ outer depth, isSpace c = true
  colon_blank : ∀ c ∈ colon, isSpace c = true

/-- The parts of a block with the commas between them. -/
def Layout.parts (layout : Layout) (depth : Nat) (parts : List (List Char)) : List Char :=
  (',' :: layout.inner depth).intercalate parts

/-- The parts of a block and what closes it. -/
def Layout.block (layout : Layout) (depth : Nat) (closing : Char) : List (List Char) → List Char
  | [] => [closing]
  | part :: parts =>
      layout.inner depth ++ (layout.parts depth (part :: parts) ++ (layout.outer depth ++ [closing]))

/-- A key, a colon and the text of a value. -/
def Layout.pair (layout : Layout) (key : String) (value : List Char) : List Char :=
  (renderText key).toList ++ ':' :: (layout.colon ++ value)

mutual

def Value.laidOut (layout : Layout) (depth : Nat) : Value → List Char
  | .null => ['n', 'u', 'l', 'l']
  | .bool true => ['t', 'r', 'u', 'e']
  | .bool false => ['f', 'a', 'l', 's', 'e']
  | .number n => n.render.toList
  | .text s => (renderText s).toList
  | .array items => '[' :: layout.block depth ']' (itemsLaidOut layout (depth + 1) items)
  | .object members =>
      '\x7b' :: layout.block depth '\x7d' (membersLaidOut layout (depth + 1) members)

def itemsLaidOut (layout : Layout) (depth : Nat) : List Value → List (List Char)
  | [] => []
  | v :: rest => v.laidOut layout depth :: itemsLaidOut layout depth rest

def membersLaidOut (layout : Layout) (depth : Nat) : List (String × Value) → List (List Char)
  | [] => []
  | (key, v) :: rest =>
      layout.pair key (v.laidOut layout depth) :: membersLaidOut layout depth rest

end

/-- The text of the number is a numeral that stands for it. -/
def Number.Legible (n : Number) : Prop :=
  ∃ numeral : Numeral, numeral.Proper ∧ n.render.toList = numeral.chars ∧ numeral.value = .ok n

mutual

/-- Each number in the value is read back from its text. -/
def Value.Legible : Value → Prop
  | .number n => n.Legible
  | .array items => LegibleItems items
  | .object members => LegibleMembers members
  | .null | .bool _ | .text _ => True

def LegibleItems : List Value → Prop
  | [] => True
  | v :: rest => v.Legible ∧ LegibleItems rest

def LegibleMembers : List (String × Value) → Prop
  | [] => True
  | (_, v) :: rest => v.Legible ∧ LegibleMembers rest

end

theorem dropSpace_blank {gap rest : List Char} {c : Char}
    (blank : ∀ d ∈ gap, isSpace d = true) (solid : isSpace c = false) :
    dropSpace (gap ++ c :: rest) = c :: rest := by
  rw [dropSpace, List.dropWhile_append_of_pos blank, List.dropWhile_cons_of_neg (by simp [solid])]

theorem dropSpace_solid {c : Char} (rest : List Char) (solid : isSpace c = false) :
    dropSpace (c :: rest) = c :: rest := by
  rw [dropSpace, List.dropWhile_cons_of_neg (by simp [solid])]

theorem endsNumeral_cons {c : Char} (rest : List Char)
    (other : c.isDigit = false ∧ c ≠ '.' ∧ c ≠ 'e' ∧ c ≠ 'E') : EndsNumeral (c :: rest) := by
  intro d first
  cases first
  exact other

theorem endsNumeral_blank {gap rest : List Char} (blank : ∀ d ∈ gap, isSpace d = true)
    (ends : EndsNumeral rest) : EndsNumeral (gap ++ rest) := by
  cases gap with
  | nil => exact ends
  | cons d gap =>
      have space : isSpace d = true := blank d List.mem_cons_self
      simp only [isSpace, Bool.or_eq_true, decide_eq_true_eq] at space
      apply endsNumeral_cons
      rcases space with ((rfl | rfl) | rfl) | rfl <;> decide

theorem isSpace_of_begins {c : Char} (begins : c = '-' ∨ c.isDigit = true) :
    isSpace c = false := by
  cases space : isSpace c with
  | false => rfl
  | true =>
      simp only [isSpace, Bool.or_eq_true, decide_eq_true_eq] at space
      rcases space with ((rfl | rfl) | rfl) | rfl <;> revert begins <;> decide

/-- No value begins with a blank or with a closing bracket. -/
theorem Value.first_laidOut (layout : Layout) (depth : Nat) {v : Value} (legible : v.Legible) :
    ∃ c tail, v.laidOut layout depth = c :: tail ∧ isSpace c = false ∧ c ≠ ']' := by
  cases v with
  | null => exact ⟨'n', _, rfl, by decide, by decide⟩
  | bool b => cases b <;> exact ⟨_, _, rfl, by decide, by decide⟩
  | text s => exact ⟨'"', _, toList_renderText s, by decide, by decide⟩
  | array items => exact ⟨'[', _, rfl, by decide, by decide⟩
  | object members => exact ⟨'\x7b', _, rfl, by decide, by decide⟩
  | number n =>
      obtain ⟨numeral, proper, text, -⟩ := legible
      obtain ⟨c, tail, first, begins⟩ := proper.first
      refine ⟨c, tail, text.trans first, isSpace_of_begins begins, ?_⟩
      rintro rfl
      revert begins
      decide

/-! ## Reading them back -/

section
variable (layout : Layout) {depth : Nat}

theorem Layout.block_append (closing : Char) (part : List Char) (parts : List (List Char))
    (rest : List Char) :
    layout.block depth closing (part :: parts) ++ rest =
      layout.inner depth ++ (layout.parts depth (part :: parts) ++
        (layout.outer depth ++ closing :: rest)) := by
  simp only [Layout.block, List.append_assoc, List.singleton_append]

theorem Layout.parts_cons_cons (first second : List Char) (parts : List (List Char)) :
    layout.parts depth (first :: second :: parts) =
      first ++ ',' :: (layout.inner depth ++ layout.parts depth (second :: parts)) := by
  rw [Layout.parts, List.intercalate_cons_cons, List.append_assoc]
  rfl

theorem Layout.parts_cons (c : Char) (first : List Char) (parts : List (List Char)) :
    layout.parts depth ((c :: first) :: parts) = c :: layout.parts depth (first :: parts) :=
  List.intercalate_cons_cons_left

theorem Layout.first_pair (key : String) (value : List Char) :
    ∃ tail, layout.pair key value = '"' :: tail :=
  ⟨_, by rw [Layout.pair, toList_renderText, List.cons_append]⟩

/-- One element and its closing bracket, or a comma and the elements after it. -/
theorem elementsIn_cons {v : Value} {items : List Value} (rest : List Char)
    (legible : LegibleItems items)
    (value : ∀ rest, EndsNumeral rest →
      valueIn (v.laidOut layout (depth + 1) ++ rest) = (v.toNode, some rest))
    (later : items ≠ [] →
      elementsIn (layout.parts depth (itemsLaidOut layout (depth + 1) items) ++
        (layout.outer depth ++ ']' :: rest)) = (itemsOf items, some rest)) :
    elementsIn (layout.parts depth (itemsLaidOut layout (depth + 1) (v :: items)) ++
      (layout.outer depth ++ ']' :: rest)) = (itemsOf (v :: items), some rest) := by
  cases items with
  | nil =>
      have ends : EndsNumeral (layout.outer depth ++ ']' :: rest) :=
        endsNumeral_blank (layout.outer_blank depth) (endsNumeral_cons rest (by decide))
      have close : dropSpace (layout.outer depth ++ ']' :: rest) = ']' :: rest :=
        dropSpace_blank (layout.outer_blank depth) (by decide)
      rw [itemsLaidOut, itemsLaidOut, Layout.parts, List.intercalate_singleton]
      exact elementsIn_last (value _ ends) close
  | cons w others =>
      have later := later (by simp)
      obtain ⟨c, tail, first, solid, other⟩ := Value.first_laidOut layout (depth + 1) legible.1
      have next (more : List Char) : dropSpace (layout.inner depth ++ c :: more) = c :: more :=
        dropSpace_blank (layout.inner_blank depth) solid
      rw [itemsLaidOut, first, layout.parts_cons, List.cons_append] at later
      rw [itemsLaidOut, itemsLaidOut, first, layout.parts_cons_cons, layout.parts_cons]
      simp only [List.append_assoc, List.cons_append]
      rw [elementsIn_next (value _ (endsNumeral_cons _ (by decide)))
        (dropSpace_solid _ (by decide)) (by rw [next]; simpa using other), next, later]
      rfl

/-- The text of a member is a pair, as soon as the text of its value is read. -/
theorem pair_laidOut (key : String) {v : Value} {rest : List Char} (legible : v.Legible)
    (value : valueIn (v.laidOut layout depth ++ rest) = (v.toNode, some rest)) :
    Pair (layout.pair key (v.laidOut layout depth) ++ rest) key v.toNode rest := by
  obtain ⟨c, tail, first, solid, -⟩ := Value.first_laidOut layout depth legible
  refine ⟨':' :: (layout.colon ++ (v.laidOut layout depth ++ rest)),
    layout.colon ++ (v.laidOut layout depth ++ rest), ?_, dropSpace_solid _ (by decide), ?_⟩
  · simp only [Layout.pair, List.append_assoc, List.cons_append]
  · rw [first, List.cons_append] at value ⊢
    rw [dropSpace_blank layout.colon_blank solid, value]

/-- One member and the closing brace, or a comma and the members after it. -/
theorem pairsIn_cons (key : String) {v : Value} {members : List (String × Value)}
    (rest : List Char) (legible : v.Legible)
    (value : ∀ rest, EndsNumeral rest →
      valueIn (v.laidOut layout (depth + 1) ++ rest) = (v.toNode, some rest))
    (later : members ≠ [] →
      pairsIn (layout.parts depth (membersLaidOut layout (depth + 1) members) ++
        (layout.outer depth ++ '\x7d' :: rest)) = (membersOf members, some rest)) :
    pairsIn (layout.parts depth (membersLaidOut layout (depth + 1) ((key, v) :: members)) ++
      (layout.outer depth ++ '\x7d' :: rest)) = (membersOf ((key, v) :: members), some rest) := by
  cases members with
  | nil =>
      have ends : EndsNumeral (layout.outer depth ++ '\x7d' :: rest) :=
        endsNumeral_blank (layout.outer_blank depth) (endsNumeral_cons rest (by decide))
      have close : dropSpace (layout.outer depth ++ '\x7d' :: rest) = '\x7d' :: rest :=
        dropSpace_blank (layout.outer_blank depth) (by decide)
      rw [membersLaidOut, membersLaidOut, Layout.parts, List.intercalate_singleton]
      exact pairsIn_last (pair_laidOut layout key legible (value _ ends)) close
  | cons member others =>
      obtain ⟨nextKey, w⟩ := member
      have later := later (by simp)
      obtain ⟨tail, first⟩ := layout.first_pair nextKey (w.laidOut layout (depth + 1))
      have next (more : List Char) : dropSpace (layout.inner depth ++ '"' :: more) = '"' :: more :=
        dropSpace_blank (layout.inner_blank depth) (by decide)
      rw [membersLaidOut, first, layout.parts_cons, List.cons_append] at later
      rw [membersLaidOut, membersLaidOut, first, layout.parts_cons_cons, layout.parts_cons]
      simp only [List.append_assoc, List.cons_append]
      rw [pairsIn_next (pair_laidOut layout key legible (value _ (endsNumeral_cons _ (by decide))))
        (dropSpace_solid _ (by decide)), next, later]
      rfl

mutual

/-- A value is read back from its text, wherever no number can go on after it. -/
theorem valueIn_laidOut (depth : Nat) : ∀ {v : Value} {rest : List Char}, v.Legible →
    EndsNumeral rest → valueIn (v.laidOut layout depth ++ rest) = (v.toNode, some rest)
  | .null, rest, _, _ => valueIn_null rest
  | .bool true, rest, _, _ => valueIn_true rest
  | .bool false, rest, _, _ => valueIn_false rest
  | .number n, rest, legible, ends => by
      obtain ⟨numeral, proper, text, value⟩ := legible
      rw [Value.laidOut, text, valueIn_number proper ends, value]
      rfl
  | .text s, rest, _, _ => valueIn_text s rest
  | .array [], rest, _, _ => by
      have close : itemsIn (']' :: rest) = (.close, some rest) :=
        itemsIn_close (dropSpace_solid _ (by decide))
      exact (valueIn_array (']' :: rest)).trans (by rw [close]; rfl)
  | .array (v :: items), rest, legible, _ => by
      obtain ⟨c, tail, first, solid, other⟩ := Value.first_laidOut layout (depth + 1) legible.1
      have elements := elementsIn_laidOut depth rest legible (by simp)
      have next (more : List Char) : dropSpace (layout.inner depth ++ c :: more) = c :: more :=
        dropSpace_blank (layout.inner_blank depth) solid
      rw [itemsLaidOut, first, layout.parts_cons, List.cons_append] at elements
      rw [Value.laidOut, itemsLaidOut, List.cons_append, layout.block_append, first,
        layout.parts_cons, List.cons_append, valueIn_array, itemsIn_elements (next _) other,
        elements]
      rfl
  | .object [], rest, _, _ => by
      have close : membersIn ('\x7d' :: rest) = (.close, some rest) :=
        membersIn_close (dropSpace_solid _ (by decide))
      exact (valueIn_object ('\x7d' :: rest)).trans (by rw [close]; rfl)
  | .object ((key, v) :: members), rest, legible, _ => by
      obtain ⟨tail, first⟩ := layout.first_pair key (v.laidOut layout (depth + 1))
      have pairs := pairsIn_laidOut depth rest legible (by simp)
      have next (more : List Char) : dropSpace (layout.inner depth ++ '"' :: more) = '"' :: more :=
        dropSpace_blank (layout.inner_blank depth) (by decide)
      rw [membersLaidOut, first, layout.parts_cons, List.cons_append] at pairs
      rw [Value.laidOut, membersLaidOut, List.cons_append, layout.block_append, first,
        layout.parts_cons, List.cons_append, valueIn_object,
        membersIn_pairs (by rw [next]; simp), next, pairs]
      rfl

theorem elementsIn_laidOut (depth : Nat) : ∀ {items : List Value} (rest : List Char),
    LegibleItems items → items ≠ [] →
    elementsIn (layout.parts depth (itemsLaidOut layout (depth + 1) items) ++
      (layout.outer depth ++ ']' :: rest)) = (itemsOf items, some rest)
  | [], _, _, nonempty => absurd rfl nonempty
  | _ :: _, rest, legible, _ =>
      elementsIn_cons layout rest legible.2
        (fun _ ends => valueIn_laidOut (depth + 1) legible.1 ends)
        (elementsIn_laidOut depth rest legible.2)

theorem pairsIn_laidOut (depth : Nat) : ∀ {members : List (String × Value)} (rest : List Char),
    LegibleMembers members → members ≠ [] →
    pairsIn (layout.parts depth (membersLaidOut layout (depth + 1) members) ++
      (layout.outer depth ++ '\x7d' :: rest)) = (membersOf members, some rest)
  | [], _, _, nonempty => absurd rfl nonempty
  | (key, _) :: _, rest, legible, _ =>
      pairsIn_cons layout key rest legible.1
        (fun _ ends => valueIn_laidOut (depth + 1) legible.1 ends)
        (pairsIn_laidOut depth rest legible.2)

end

end

end AdaptiveView.Json

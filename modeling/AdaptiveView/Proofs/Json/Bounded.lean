import AdaptiveView.Json.Decode

/-!
# Counts that are read

Digits that do not fit into 64 bits make a double, so no count of a document is beyond that.  The
readers call each other on shorter and shorter texts, and what they return keeps the bound on the way.
-/

set_option autoImplicit false

namespace AdaptiveView.Json

open AdaptiveView.Decimal

/-! ## Nodes whose counts fit -/

mutual

/-- Every count in the node fits into 64 bits. -/
def Node.Bounded : Node → Prop
  | .number (.ok (.unsigned n)) => n < countLimit
  | .array items => items.Bounded
  | .object members => members.Bounded
  | .null | .bool _ | .number _ | .text _ | .broken _ _ => True

def Items.Bounded : Items → Prop
  | .close | .broken _ => True
  | .next item rest => item.Bounded ∧ rest.Bounded

def Members.Bounded : Members → Prop
  | .close | .broken _ _ => True
  | .next _ value rest => value.Bounded ∧ rest.Bounded

end

/-! ## Numbers -/

theorem kept_foldl_pushWhole (cs : List Char) (s : Significand) (fits : s.kept < countLimit) :
    (cs.foldl Significand.pushWhole s).kept < countLimit := by
  induction cs generalizing s with
  | nil => exact fits
  | cons c cs later =>
      apply later
      rw [Significand.pushWhole]
      split
      case isTrue longer => exact longer.2
      case isFalse => exact fits

theorem Numeral.bounded_value (n : Numeral) : (Node.number n.value).Bounded := by
  unfold Numeral.value
  dsimp only
  split
  case isTrue =>
    cases n.isNegative with
    | true => trivial
    | false => exact kept_foldl_pushWhole n.whole ⟨0, 0⟩ (by decide)
  case isFalse => cases n.magnitude <;> trivial

/-- A reader of a part of a number that fails leaves no count behind. -/
def FailsBounded {T : Type} (read : Except Node T) : Prop :=
  ∀ node, read = .error node → node.Bounded

theorem failsBounded_ok {T : Type} (t : T) : FailsBounded (.ok t) := by
  rintro node ⟨⟩

theorem failsBounded_broken {T : Type} (taken skipped : Fault) :
    FailsBounded (.error (.broken taken skipped) : Except Node T) := by
  rintro node ⟨⟩
  trivial

theorem FailsBounded.map {T U : Type} {read : Except Node T} (fails : FailsBounded read)
    (f : T → U) : FailsBounded (read.map f) := by
  cases read with
  | ok t => exact failsBounded_ok (f t)
  | error node =>
      rintro _ ⟨⟩
      exact fails node rfl

theorem FailsBounded.bind {T U : Type} {read : Except Node T} {next : T → Except Node U}
    (fails : FailsBounded read) (later : ∀ t, FailsBounded (next t)) :
    FailsBounded (read >>= next) := by
  cases read with
  | ok t => exact later t
  | error node =>
      rintro _ ⟨⟩
      exact fails node rfl

theorem failsBounded_requireDigits (cs : List Char) : FailsBounded (requireDigits cs) := by
  unfold requireDigits
  dsimp only
  split
  · exact failsBounded_broken _ _
  · exact failsBounded_ok _

theorem failsBounded_readWhole (cs : List Char) : FailsBounded (readWhole cs) := by
  have digits := failsBounded_requireDigits cs
  unfold readWhole
  split
  case h_1 node failed =>
    rintro _ ⟨⟩
    exact digits node failed
  case h_2 =>
    split
    · exact failsBounded_broken _ _
    · exact failsBounded_ok _

theorem failsBounded_readPlaces (cs : List Char) : FailsBounded (readPlaces cs) := by
  unfold readPlaces
  split
  · exact (failsBounded_requireDigits _).map _
  · exact failsBounded_ok _

theorem failsBounded_readPower (cs : List Char) : FailsBounded (readPower cs) := by
  unfold readPower
  split
  · exact failsBounded_ok _
  · split
    · exact (failsBounded_requireDigits _).map _
    · exact failsBounded_ok _

theorem failsBounded_readNumeral (cs : List Char) : FailsBounded (readNumeral cs) := by
  unfold readNumeral
  refine (failsBounded_readWhole _).bind fun _ => ?_
  refine (failsBounded_readPlaces _).bind fun _ => ?_
  refine (failsBounded_readPower _).bind fun _ => ?_
  exact failsBounded_ok _

theorem bounded_readNumber (cs : List Char) : (readNumber cs).node.Bounded := by
  unfold readNumber
  split
  case h_1 node failed => exact failsBounded_readNumeral cs node failed
  case h_2 numeral rest _ => exact numeral.bounded_value

/-! ## Values -/

theorem bounded_readName {node found : Node} {name cs rest : List Char} (bounded : node.Bounded)
    (read : readName node name cs = .ok (found, rest)) : found.Bounded := by
  fun_induction readName node name cs with
  | case1 cs =>
      cases read
      exact bounded
  | case2 => cases read
  | case3 c name cs later => exact later read
  | case4 => cases read

theorem bounded_readNamed (node : Node) (name cs : List Char) (bounded : node.Bounded) :
    (readNamed node name cs).1.Bounded := by
  unfold readNamed
  split
  case h_1 found rest read => exact bounded_readName bounded read
  case h_2 => trivial

/-- What is left after the blanks and one more character is shorter. -/
theorem length_lt_of_dropSpace {cs rest : List Char} {c : Char} (h : dropSpace cs = c :: rest) :
    rest.length < cs.length := by
  have trimmed := length_dropSpace_le cs
  rw [h, List.length_cons] at trimmed
  omega

mutual

theorem bounded_readValue (cs : List Char) : (readValue cs).1.Bounded := by
  rw [readValue.eq_def]
  split
  case h_1 => trivial
  case h_2 rest =>
    have bounded := bounded_readItems rest
    generalize readItems rest = read at bounded ⊢
    rcases read with ⟨items, _ | left⟩ <;> exact bounded
  case h_3 rest =>
    have bounded := bounded_readMembers rest
    generalize readMembers rest = read at bounded ⊢
    rcases read with ⟨members, _ | left⟩ <;> exact bounded
  case h_4 rest =>
    dsimp only
    split <;> trivial
  case h_5 c rest _ _ _ =>
    dsimp only
    split
    · have null := bounded_readNamed .null ['u', 'l', 'l'] rest trivial
      generalize readNamed .null ['u', 'l', 'l'] rest = read at null ⊢
      rcases read with ⟨node, _ | left⟩ <;> exact null
    split
    · have yes := bounded_readNamed (.bool true) ['r', 'u', 'e'] rest trivial
      generalize readNamed (.bool true) ['r', 'u', 'e'] rest = read at yes ⊢
      rcases read with ⟨node, _ | left⟩ <;> exact yes
    split
    · have no := bounded_readNamed (.bool false) ['a', 'l', 's', 'e'] rest trivial
      generalize readNamed (.bool false) ['a', 'l', 's', 'e'] rest = read at no ⊢
      rcases read with ⟨node, _ | left⟩ <;> exact no
    split
    · exact bounded_readNumber (c :: rest)
    · trivial
termination_by (cs.length, 0)

theorem bounded_readItems (cs : List Char) : (readItems cs).1.Bounded := by
  rw [readItems]
  split
  case h_1 => trivial
  case h_2 => trivial
  case h_3 c rest _ here =>
    have shorter := length_lt_of_dropSpace here
    have bounded := bounded_readElements (c :: rest)
    generalize readElements (c :: rest) = read at bounded ⊢
    rcases read with ⟨items, _ | left⟩ <;> exact bounded
termination_by (cs.length, 2)
decreasing_by
  rw [List.length_cons]
  rcases Nat.lt_or_eq_of_le shorter with less | same
  · exact Prod.Lex.left _ _ less
  · rw [← same]
    exact Prod.Lex.right _ (by decide)

theorem bounded_readElements (cs : List Char) : (readElements cs).1.Bounded := by
  have value := bounded_readValue cs
  rw [readElements]
  split
  case h_1 item read =>
    rw [read] at value
    exact ⟨value, trivial⟩
  case h_2 item left below read =>
    rw [read] at value
    dsimp only
    split
    case h_1 => exact ⟨value, trivial⟩
    case h_2 => exact ⟨value, trivial⟩
    case h_3 rest here =>
      have shorter := length_lt_of_dropSpace here
      have again := length_dropSpace_le rest
      split
      · exact ⟨value, trivial⟩
      · have bounded := bounded_readElements (dropSpace rest)
        generalize readElements (dropSpace rest) = read at bounded ⊢
        rcases read with ⟨items, _ | left⟩ <;> exact ⟨value, bounded⟩
    case h_4 => exact ⟨value, trivial⟩
termination_by (cs.length, 1)

theorem bounded_readMembers (cs : List Char) : (readMembers cs).1.Bounded := by
  have trimmed := length_dropSpace_le cs
  rw [readMembers]
  split
  case h_1 => trivial
  case h_2 =>
    have bounded := bounded_readPairs (dropSpace cs)
    generalize readPairs (dropSpace cs) = read at bounded ⊢
    rcases read with ⟨members, _ | left⟩ <;> exact bounded
termination_by (cs.length, 2)
decreasing_by
  rcases Nat.lt_or_eq_of_le trimmed with shorter | same
  · exact Prod.Lex.left _ _ shorter
  · rw [same]
    exact Prod.Lex.right _ (by decide)

theorem bounded_readPairs (cs : List Char) : (readPairs cs).1.Bounded := by
  rw [readPairs.eq_def]
  split
  case h_1 rest =>
    dsimp only
    split
    case h_1 => trivial
    case h_2 afterKey belowKey _ =>
      split
      case h_1 afterColon colon =>
        have shorterValue := length_lt_of_dropSpace colon
        have againValue := length_dropSpace_le afterColon
        have value := bounded_readValue (dropSpace afterColon)
        split
        case h_1 value' read =>
          rw [read] at value
          exact ⟨value, trivial⟩
        case h_2 value' left below read =>
          rw [read] at value
          split
          case h_1 => exact ⟨value, trivial⟩
          case h_2 after here =>
            have shorter := length_lt_of_dropSpace here
            have again := length_dropSpace_le after
            have bounded := bounded_readPairs (dropSpace after)
            generalize readPairs (dropSpace after) = read at bounded ⊢
            rcases read with ⟨members, _ | left⟩ <;> exact ⟨value, bounded⟩
          case h_3 => exact ⟨value, trivial⟩
      case h_2 => exact ⟨trivial, trivial⟩
  case h_2 => trivial
termination_by (cs.length, 1)
decreasing_by
  all_goals
    subst cs
    apply Prod.Lex.left
    simp only [List.length_cons]
    omega

end

theorem Document.bounded_ofText (s : String) : (Document.ofText s).root.Bounded := by
  have value := bounded_readValue (dropSpace s.toList)
  unfold Document.ofText
  split <;> simp_all

/-! ## Fields -/

theorem refuse_ne_ok {α : Type} (expected : String) (node : Node) (a : α) :
    refuse expected node ≠ .ok a := by
  unfold refuse
  split <;> simp

theorem lt_of_takeCountAs {expected : String} {node : Node} {n : Nat} (bounded : node.Bounded)
    (taken : takeCountAs expected node = .ok n) : n < countLimit := by
  unfold takeCountAs at taken
  split at taken
  case h_1 =>
    cases taken
    exact bounded
  case h_2 => cases taken
  case h_3 => exact absurd taken (refuse_ne_ok _ _ _)

/-- The fields that are found hold counts that fit. -/
def Fields.Bounded (fields : Fields) : Prop :=
  ∀ field ∈ fields.present, field.2.Bounded

theorem ok_of_bind {ε α β : Type} {x : Except ε α} {f : α → Except ε β} {b : β}
    (h : (x >>= f) = .ok b) : ∃ a, x = .ok a ∧ f a = .ok b := by
  cases x with
  | error e => cases h
  | ok a => exact ⟨a, rfl, h⟩

theorem Shape.bounded_takeMembers (shape : Shape) : ∀ (members : Members)
    (seen present : List (String × Node)), shape.takeMembers seen members = .ok present →
    members.Bounded → (∀ field ∈ seen, field.2.Bounded) → ∀ field ∈ present, field.2.Bounded
  | .close, seen, present, taken, _, before => by
      cases taken
      simpa using before
  | .broken _ _, _, _, taken, _, _ => by cases taken
  | .next key value rest, seen, present, taken, bounded, before => by
      obtain ⟨name, -, taken⟩ := ok_of_bind taken
      split at taken
      case h_1 =>
        obtain ⟨_, -, taken⟩ := ok_of_bind taken
        exact shape.bounded_takeMembers rest seen present taken bounded.2 before
      case h_2 field _ =>
        split at taken
        · cases taken
        · obtain ⟨_, -, taken⟩ := ok_of_bind taken
          refine shape.bounded_takeMembers rest _ present taken bounded.2 ?_
          exact List.forall_mem_cons.mpr ⟨bounded.1, before⟩

theorem bounded_takeInOrder : ∀ (fields : List Field) (items : Items)
    (present : List (String × Node)), takeInOrder fields items = .ok present →
    items.Bounded → ∀ field ∈ present, field.2.Bounded
  | _, .broken _, _, taken, _ => by
      rw [takeInOrder] at taken
      cases taken
  | _, .close, _, taken, _ => by
      rw [takeInOrder] at taken
      cases taken
      simp
  | [], .next _ _, _, taken, _ => by
      rw [takeInOrder] at taken
      cases taken
  | field :: fields, .next item rest, present, taken, bounded => by
      obtain ⟨_, -, taken⟩ := ok_of_bind taken
      obtain ⟨others, later, taken⟩ := ok_of_bind taken
      cases taken
      exact List.forall_mem_cons.mpr ⟨bounded.1, bounded_takeInOrder fields rest others later bounded.2⟩

theorem Shape.bounded_take {shape : Shape} {node : Node} {fields : Fields}
    (bounded : node.Bounded) (taken : shape.take node = .ok fields) : fields.Bounded := by
  unfold Shape.take at taken
  split at taken
  case h_1 members =>
    obtain ⟨present, found, taken⟩ := ok_of_bind taken
    cases taken
    exact shape.bounded_takeMembers members [] present found bounded (by simp)
  case h_2 items =>
    obtain ⟨present, found, taken⟩ := ok_of_bind taken
    cases taken
    exact bounded_takeInOrder shape.fields items present found bounded
  case h_3 => exact absurd taken (refuse_ne_ok _ _ _)

/-- A field has what its default has and what its decoder gives to every bounded node. -/
theorem Fields.getD_holds {α : Type} {fields : Fields} {name : String} {decoder : Decoder α}
    {default a : α} {P : α → Prop} (bounded : fields.Bounded)
    (decoded : ∀ node a, node.Bounded → decoder node = .ok a → P a) (absent : P default)
    (taken : fields.getD name decoder default = .ok a) : P a := by
  unfold Fields.getD at taken
  split at taken
  case h_1 node found =>
    obtain ⟨before, after, whole, -⟩ := List.lookup_eq_some_iff.mp found
    have among : (name, node) ∈ fields.present := by simp [whole]
    exact decoded node a (bounded _ among) taken
  case h_2 =>
    cases taken
    exact absent

theorem root_of_takeDocument {α : Type} {decoder : Decoder α} {s : String} {a : α}
    (taken : takeDocument decoder s = .ok a) : decoder (Document.ofText s).root = .ok a := by
  obtain ⟨found, root, taken⟩ := ok_of_bind taken
  split at taken
  case h_1 =>
    cases taken
    exact root
  case h_2 => cases taken

end AdaptiveView.Json

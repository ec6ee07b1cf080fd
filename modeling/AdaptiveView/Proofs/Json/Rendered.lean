import AdaptiveView.Proofs.Json.Layout

/-!
# Documents that were rendered

The text without blanks and the text over lines are two layouts of a value.  As documents both give
the value again, with nothing after it.
-/

set_option autoImplicit false

namespace AdaptiveView.Json

/-! ## The text without blanks -/

def Layout.compact : Layout where
  inner _ := []
  outer _ := []
  colon := []
  inner_blank := by simp
  outer_blank := by simp
  colon_blank := by simp

theorem Layout.block_compact (depth : Nat) (closing : Char) (parts : List (List Char)) :
    Layout.compact.block depth closing parts = [','].intercalate parts ++ [closing] := by
  cases parts <;> rfl

mutual

theorem Value.toList_render : ∀ (v : Value) (depth : Nat),
    v.render.toList = v.laidOut .compact depth
  | .null, _ | .bool true, _ | .bool false, _ | .number _, _ | .text _, _ => rfl
  | .array items, depth => by
      simp only [Value.render, Value.laidOut, String.toList_append, String.toList_intercalate,
        map_toList_renderItems items (depth + 1), Layout.block_compact]
      rfl
  | .object members, depth => by
      simp only [Value.render, Value.laidOut, String.toList_append, String.toList_intercalate,
        map_toList_renderMembers members (depth + 1), Layout.block_compact]
      rfl

theorem map_toList_renderItems : ∀ (items : List Value) (depth : Nat),
    (renderItems items).map String.toList = itemsLaidOut .compact depth items
  | [], _ => rfl
  | v :: items, depth => by
      rw [renderItems, List.map_cons, v.toList_render depth, map_toList_renderItems items depth,
        itemsLaidOut]

theorem map_toList_renderMembers : ∀ (members : List (String × Value)) (depth : Nat),
    (renderMembers members).map String.toList = membersLaidOut .compact depth members
  | [], _ => rfl
  | (key, v) :: members, depth => by
      rw [renderMembers, List.map_cons, map_toList_renderMembers members depth, membersLaidOut,
        Layout.pair, ← v.toList_render depth]
      simp [Layout.compact]

end

/-! ## The text over lines -/

/-- The blanks at the beginning of a line. -/
def indentation (depth : Nat) : List Char :=
  List.replicate (2 * depth) ' '

theorem indentation_blank (depth : Nat) : ∀ c ∈ '\n' :: indentation depth, isSpace c = true := by
  intro c among
  rcases List.mem_cons.mp among with rfl | among
  · rfl
  · rw [List.eq_of_mem_replicate among]
    rfl

def Layout.lines : Layout where
  inner depth := '\n' :: indentation (depth + 1)
  outer depth := '\n' :: indentation depth
  colon := [' ']
  inner_blank depth := indentation_blank (depth + 1)
  outer_blank depth := indentation_blank depth
  colon_blank := List.forall_mem_singleton.mpr rfl

theorem toList_deeper {indent : String} {depth : Nat} (h : indent.toList = indentation depth) :
    (indent ++ "  ").toList = indentation (depth + 1) := by
  rw [String.toList_append, h, indentation, indentation, Nat.mul_succ,
    List.replicate_append_replicate.symm]
  rfl

theorem toList_renderBlock {indent : String} {depth : Nat} (h : indent.toList = indentation depth)
    (opening closing : Char) (parts : List String) :
    (renderBlock (String.singleton opening) (String.singleton closing) indent parts).toList =
      opening :: Layout.lines.block depth closing (parts.map String.toList) := by
  cases parts with
  | nil => simp [renderBlock, Layout.block]
  | cons part parts =>
      have deeper : indentation (depth + 1) = indentation depth ++ [' ', ' '] := by
        rw [← toList_deeper h, String.toList_append, h]
        rfl
      simp [renderBlock, Layout.block, Layout.parts, Layout.lines, String.toList_intercalate, h,
        deeper]

mutual

theorem Value.toList_renderLines : ∀ (v : Value) {indent : String} {depth : Nat},
    indent.toList = indentation depth →
    (v.renderLines indent).toList = v.laidOut .lines depth
  | .null, _, _, _ => by
      rw [Value.renderLines]
      rfl
  | .number _, _, _, _ | .text _, _, _, _ => by rw [Value.renderLines, Value.laidOut]
  | .bool b, _, _, _ => by
      rw [Value.renderLines]
      cases b <;> rfl
  | .array items, _, _, h => by
      rw [Value.renderLines, Value.laidOut, ← map_toList_itemLines items (toList_deeper h)]
      exact toList_renderBlock h '[' ']' _
  | .object members, _, _, h => by
      rw [Value.renderLines, Value.laidOut, ← map_toList_memberLines members (toList_deeper h)]
      exact toList_renderBlock h '\x7b' '\x7d' _

theorem map_toList_itemLines : ∀ (items : List Value) {indent : String} {depth : Nat},
    indent.toList = indentation depth →
    (itemLines indent items).map String.toList = itemsLaidOut .lines depth items
  | [], _, _, _ => rfl
  | v :: items, _, _, h => by
      rw [itemLines, List.map_cons, v.toList_renderLines h, map_toList_itemLines items h,
        itemsLaidOut]

theorem map_toList_memberLines : ∀ (members : List (String × Value)) {indent : String}
    {depth : Nat}, indent.toList = indentation depth →
    (memberLines indent members).map String.toList = membersLaidOut .lines depth members
  | [], _, _, _ => rfl
  | (key, v) :: members, _, _, h => by
      rw [memberLines, List.map_cons, map_toList_memberLines members h, membersLaidOut,
        Layout.pair, ← v.toList_renderLines h]
      simp [Layout.lines]

end

/-! ## As documents -/

theorem Document.ofText_of_valueIn {s : String} {root : Node}
    (value : valueIn (dropSpace s.toList) = (root, some [])) : Document.ofText s = ⟨root, none⟩ := by
  obtain ⟨below, read⟩ := eq_of_found value
  rw [Document.ofText, read]
  rfl

theorem endsNumeral_nil : EndsNumeral [] := by
  rintro c ⟨⟩

theorem Document.ofText_laidOut (layout : Layout) {v : Value} (legible : v.Legible) {s : String}
    (text : s.toList = v.laidOut layout 0) : Document.ofText s = ⟨v.toNode, none⟩ := by
  obtain ⟨c, tail, first, solid, -⟩ := Value.first_laidOut layout 0 legible
  have whole : dropSpace s.toList = v.laidOut layout 0 ++ [] := by
    rw [text, first, dropSpace_solid _ solid, List.append_nil]
  apply Document.ofText_of_valueIn
  rw [whole, valueIn_laidOut layout 0 legible endsNumeral_nil]

/-- The two texts of a value. -/
def Value.WrittenAs (v : Value) (s : String) : Prop :=
  s = v.render ∨ s = v.renderLines ""

theorem Document.ofText_written {v : Value} (legible : v.Legible) {s : String}
    (written : v.WrittenAs s) : Document.ofText s = ⟨v.toNode, none⟩ := by
  rcases written with rfl | rfl
  · exact Document.ofText_laidOut .compact legible (v.toList_render 0)
  · exact Document.ofText_laidOut .lines legible (v.toList_renderLines rfl)

/-! ## Values that are legible -/

theorem legibleItems_iff {items : List Value} :
    LegibleItems items ↔ ∀ v ∈ items, v.Legible := by
  induction items with
  | nil => simp [LegibleItems]
  | cons v items later => simp [LegibleItems, later]

theorem legibleMembers_iff {members : List (String × Value)} :
    LegibleMembers members ↔ ∀ member ∈ members, member.2.Legible := by
  induction members with
  | nil => simp [LegibleMembers]
  | cons member members later => simp [LegibleMembers, later]

theorem Value.legible_text (s : String) : (Value.text s).Legible := by
  trivial

theorem Value.legible_count {n : Nat} (fits : n < Decimal.countLimit) : (Value.count n).Legible :=
  ⟨countNumeral n, proper_countNumeral n, by rw [chars_countNumeral, Number.render,
    String.toList_ofList], value_countNumeral fits⟩

theorem Value.legible_optional {α : Type} {toValue : α → Value} {o : Option α}
    (legible : ∀ a, o = some a → (toValue a).Legible) : (Value.optional toValue o).Legible := by
  cases o with
  | none => trivial
  | some a => exact legible a rfl

end AdaptiveView.Json

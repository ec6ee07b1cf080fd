import AdaptiveView.Json.Decode
import AdaptiveView.Proofs.Json.Rendered
import Mathlib.Data.List.Forall2

/-!
# Objects with fields missing

An object that was written from a record gives every field once.  However many of them are taken out,
the others are found with their data, and each that is gone is read as its default.
-/

set_option autoImplicit false

namespace AdaptiveView.Json

/-- An object without some of its members. -/
def Value.without (gone : String → Bool) : Value → Value
  | .object members => .object (members.filter fun member => !gone member.1)
  | v => v

/-- An object with one of its members changed. -/
def Value.within (name : String) (f : Value → Value) : Value → Value
  | .object members => .object (members.map fun (key, v) => (key, if key = name then f v else v))
  | v => v

theorem Value.without_nothing (v : Value) : v.without (fun _ => false) = v := by
  cases v <;> simp [Value.without]

theorem Value.within_of_same {f : Value → Value} (same : ∀ v, f v = v) (name : String) (v : Value) :
    v.within name f = v := by
  cases v <;> simp [Value.within, same]

/-- The members are fields of the shape with data that fits, each of them once. -/
structure Shape.Given (shape : Shape) (members : List (String × Value)) : Prop where
  once : (members.map (·.1)).Nodup
  fits : ∀ member ∈ members, ∃ field, shape.fields.find? (·.name == member.1) = some field ∧
    field.check member.2.toNode = .ok ()

theorem Field.check_of {α : Type} {name : String} {decoder : Decoder α} {node : Node} {a : α}
    (taken : decoder node = .ok a) : (Field.of name decoder).check node = .ok () := by
  simp only [Field.of, taken, Except.map]

/-- Filtering keeps members given. -/
theorem Shape.Given.filter {shape : Shape} {members : List (String × Value)}
    (given : shape.Given members) (kept : String × Value → Bool) :
    shape.Given (members.filter kept) where
  once := given.once.sublist (List.filter_sublist.map _)
  fits member among := given.fits member (List.mem_filter.mp among).1

/-- The members as the fields that are found. -/
def presentOf (members : List (String × Value)) : List (String × Node) :=
  members.map fun (name, v) => (name, v.toNode)

theorem lookup_eq_none_of_not_mem {V : Type} {name : String} {members : List (String × V)}
    (absent : name ∉ members.map (·.1)) : members.lookup name = none := by
  rw [List.lookup_eq_none_iff]
  intro member among
  rw [bne_iff_ne]
  rintro rfl
  exact absent (List.mem_map_of_mem among)

theorem Shape.takeMembers_membersOf (shape : Shape) {members : List (String × Value)}
    (given : shape.Given members) (seen : List (String × Node))
    (unseen : ∀ member ∈ members, member.1 ∉ seen.map (·.1)) :
    shape.takeMembers seen (membersOf members) = .ok (seen.reverse ++ presentOf members) := by
  induction members generalizing seen with
  | nil => simp [membersOf, Shape.takeMembers, presentOf]
  | cons member members later =>
      obtain ⟨name, v⟩ := member
      obtain ⟨field, found, check⟩ := given.fits (name, v) List.mem_cons_self
      have new : seen.lookup name = none :=
        lookup_eq_none_of_not_mem (unseen (name, v) List.mem_cons_self)
      obtain ⟨fresh, once⟩ := List.nodup_cons.mp given.once
      have rest : shape.Given members :=
        ⟨once, fun member among => given.fits member (List.mem_cons_of_mem _ among)⟩
      have still : ∀ member ∈ members, member.1 ∉ ((name, v.toNode) :: seen).map (·.1) := by
        intro member among
        rw [List.map_cons, List.mem_cons, not_or]
        refine ⟨?_, unseen member (List.mem_cons_of_mem _ among)⟩
        intro same
        exact fresh (List.mem_map.mpr ⟨member, among, same⟩)
      rw [membersOf, Shape.takeMembers]
      simp only [orFault, bind, Except.bind, found, new, Option.isSome_none, Bool.false_eq_true,
        if_false, check, later rest _ still]
      simp [presentOf]

theorem Shape.take_object (shape : Shape) {members : List (String × Value)}
    (given : shape.Given members) :
    shape.take (Value.object members).toNode = .ok ⟨presentOf members, .missingField⟩ := by
  have taken := shape.takeMembers_membersOf given [] (by simp)
  simp only [Value.toNode, Shape.take, taken, bind, Except.bind, pure, Except.pure,
    List.reverse_nil, List.nil_append]

/-! ## Fields that are there or gone -/

theorem lookup_presentOf (members : List (String × Value)) (name : String) :
    (presentOf members).lookup name = (members.lookup name).map Value.toNode := by
  induction members with
  | nil => rfl
  | cons member members later =>
      obtain ⟨key, v⟩ := member
      rw [presentOf, List.map_cons, List.lookup_cons, List.lookup_cons]
      cases name == key with
      | true => rfl
      | false => exact later

theorem lookup_filter (members : List (String × Value)) (gone : String → Bool) (name : String) :
    (members.filter fun member => !gone member.1).lookup name =
      if gone name then none else members.lookup name := by
  induction members with
  | nil => simp
  | cons member members later =>
      obtain ⟨key, v⟩ := member
      rw [List.filter_cons, List.lookup_cons]
      by_cases same : name = key
      · subst same
        cases absent : gone name <;> simp [later, absent]
      · have other : (name == key) = false := by simpa using same
        cases gone key <;> simp [List.lookup_cons, later, other]

/-- The fields that are found in what is left of the members. -/
def leftOf (gone : String → Bool) (members : List (String × Value)) : Fields :=
  ⟨presentOf (members.filter fun member => !gone member.1), .missingField⟩

theorem Shape.take_without (shape : Shape) {members : List (String × Value)}
    (given : shape.Given members) (gone : String → Bool) :
    shape.take ((Value.object members).without gone).toNode = .ok (leftOf gone members) :=
  shape.take_object (given.filter _)

theorem bind_ok {ε α β : Type} {x : Except ε α} {f : α → Except ε β} {a : α} {y : Except ε β}
    (first : x = .ok a) (rest : f a = y) : (x >>= f) = y := by
  rw [first]
  exact rest

section
variable {α : Type} {gone : String → Bool} {members : List (String × Value)} {name : String}
  {decoder : Decoder α} {v : Value} {a : α}

theorem required_leftOf (written : members.lookup name = some v)
    (taken : decoder v.toNode = .ok a) (kept : gone name = false) :
    (leftOf gone members).required name decoder = .ok a := by
  simp [Fields.required, leftOf, lookup_presentOf, lookup_filter, kept, written, taken]

theorem getD_leftOf (default : α) (written : members.lookup name = some v)
    (taken : decoder v.toNode = .ok a) :
    (leftOf gone members).getD name decoder default = .ok (if gone name then default else a) := by
  cases kept : gone name <;>
    simp [Fields.getD, leftOf, lookup_presentOf, lookup_filter, kept, written, taken]

end

/-! ## Optional data and documents -/

theorem takeOptional_optional {α : Type} {decoder : Decoder α} {toValue : α → Value}
    (taken : ∀ a, (toValue a).toNode ≠ .null ∧ decoder (toValue a).toNode = .ok a)
    (o : Option α) : takeOptional decoder (Value.optional toValue o).toNode = .ok o := by
  cases o with
  | none => rfl
  | some a =>
      obtain ⟨nonnull, taken⟩ := taken a
      simp only [Value.optional, takeOptional, taken]
      rfl

theorem takeDocument_written {α : Type} {decoder : Decoder α} {v : Value} {a : α} {s : String}
    (written : v.WrittenAs s) (legible : v.Legible) (taken : decoder v.toNode = .ok a) :
    takeDocument decoder s = .ok a := by
  rw [takeDocument, Document.ofText_written legible written, Document.take, taken]
  rfl

theorem legible_without {members : List (String × Value)}
    (legible : ∀ member ∈ members, member.2.Legible) (gone : String → Bool) :
    ((Value.object members).without gone).Legible := by
  rw [Value.without, Value.Legible, legibleMembers_iff]
  intro member among
  exact legible member (List.mem_filter.mp among).1

end AdaptiveView.Json

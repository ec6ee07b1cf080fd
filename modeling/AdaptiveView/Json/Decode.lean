import AdaptiveView.Json.Reader
import AdaptiveView.Text.Quoted

/-!
# Taking typed data from a document

A decoder takes a node as one kind of data.  It fails when the text fails or when the value is of
another kind.  A record is given as an object, whose members may stand in any order and may include
unknown ones, or as an array of its fields in their order.
-/

set_option autoImplicit false

namespace AdaptiveView.Json

open AdaptiveView.Decimal

/-- What stands in a document where something else was expected. -/
inductive Found where
  | null
  | boolean (b : Bool)
  | number (n : Number)
  | text (s : String)
  | sequence
  | map

/-- Why well-formed data does not fit. -/
inductive Mismatch where
  | wrongType (found : Found) (expected : String)
  | wrongValue (found : Found) (expected : String)
  | wrongLength (length : Nat) (expected : String)
  | missingField (name : String)
  | duplicateField (name : String)
  | unknownVariant (name : String) (variants : List String)
  | badDate

inductive DecodeError where
  | text (fault : Fault)
  | data (mismatch : Mismatch)

def Found.message : Found → String
  | .null => "null"
  | .boolean b => "boolean `" ++ (if b then "true" else "false") ++ "`"
  | .number (.double x) => "floating point `" ++ shortestText x ++ "`"
  | .number n => "integer `" ++ n.render ++ "`"
  | .text s => "string " ++ Text.quoted s
  | .sequence => "sequence"
  | .map => "map"

/-- A list of names to choose from. -/
def variantsMessage : List String → String
  | [] => "there are no variants"
  | [a] => "expected `" ++ a ++ "`"
  | [a, b] => "expected `" ++ a ++ "` or `" ++ b ++ "`"
  | names => "expected one of " ++ ", ".intercalate (names.map fun name => "`" ++ name ++ "`")

def Mismatch.message : Mismatch → String
  | .wrongType found expected => "invalid type: " ++ found.message ++ ", expected " ++ expected
  | .wrongValue found expected => "invalid value: " ++ found.message ++ ", expected " ++ expected
  | .wrongLength length expected =>
      "invalid length " ++ String.ofList (digitsOf length) ++ ", expected " ++ expected
  | .missingField name => "missing field `" ++ name ++ "`"
  | .duplicateField name => "duplicate field `" ++ name ++ "`"
  | .unknownVariant name variants =>
      "unknown variant `" ++ name ++ "`, " ++ variantsMessage variants
  | .badDate => "bad date"

def DecodeError.message : DecodeError → String
  | .text .unfinished => "the text breaks off"
  | .text .malformed => "the text is no JSON"
  | .data mismatch => mismatch.message

abbrev Decoded (α : Type) := Except DecodeError α

/-- How a node is taken as data. -/
abbrev Decoder (α : Type) := Node → Decoded α

/-- Text that fails, as an error of a decoder. -/
def orFault {α : Type} : Except Fault α → Decoded α
  | .ok a => .ok a
  | .error fault => .error (.text fault)

/-- The error of a node that is not of the expected kind.  Texts and numbers are taken whole before
they are refused; the inside of an array or object is not looked at. -/
def refuse {α : Type} (expected : String) : Decoder α
  | .null => .error (.data (.wrongType .null expected))
  | .bool b => .error (.data (.wrongType (.boolean b) expected))
  | .number (.ok n) => .error (.data (.wrongType (.number n) expected))
  | .text (.ok s) => .error (.data (.wrongType (.text s) expected))
  | .array _ => .error (.data (.wrongType .sequence expected))
  | .object _ => .error (.data (.wrongType .map expected))
  | .number (.error fault) | .text (.error fault) | .broken fault _ => .error (.text fault)

/-! ## Simple data -/

def takeTextAs (expected : String) : Decoder String
  | .text (.ok s) => .ok s
  | node => refuse expected node

def takeText : Decoder String :=
  takeTextAs "a string"

def takeBool : Decoder Bool
  | .bool b => .ok b
  | node => refuse "a boolean" node

/-- A whole number of 64 bits, named after its use. -/
def takeCountAs (expected : String) : Decoder Nat
  | .number (.ok (.unsigned n)) => .ok n
  | .number (.ok (.negative n)) => .error (.data (.wrongValue (.number (.negative n)) expected))
  | node => refuse expected node

def takeCount : Decoder Nat :=
  takeCountAs "u64"

def takeSize : Decoder Nat :=
  takeCountAs "usize"

/-- The double nearest to a number. -/
def Number.toFloat : Number → Float
  | .unsigned n => Float.ofNat n
  | .negative n => -Float.ofNat n
  | .double x => x

def takeDouble : Decoder Float
  | .number (.ok n) => .ok n.toFloat
  | node => refuse "f64" node

/-- Null for nothing. -/
def takeOptional {α : Type} (decoder : Decoder α) : Decoder (Option α)
  | .null => .ok none
  | node => (decoder node).map some

def takeItems {α : Type} (decoder : Decoder α) : Items → Decoded (List α)
  | .close => .ok []
  | .broken fault => .error (.text fault)
  | .next item rest => do
      let a ← decoder item
      let as ← takeItems decoder rest
      return a :: as

def takeList {α : Type} (decoder : Decoder α) : Decoder (List α)
  | .array items => takeItems decoder items
  | node => refuse "a sequence" node

def takeUnit : Decoder Unit
  | .null => .ok ()
  | node => refuse "unit" node

def chosen {α : Type} (variants : List (String × α)) (name : String) : Decoded α :=
  match variants.lookup name with
  | some a => .ok a
  | none => .error (.data (.unknownVariant name (variants.map (·.1))))

/-- Nothing but the end of an object. -/
def Members.takeEnd : Members → Decoded Unit
  | .close => .ok ()
  | .broken taken _ => .error (.text taken)
  | .next _ _ _ => .error (.text .malformed)

/-- One of a closed choice of names: the name, or an object with the name as its only member, whose
value is null.  Anything else is a fault of the text. -/
def takeVariant {α : Type} (variants : List (String × α)) : Decoder α
  | .text name => orFault name >>= chosen variants
  | .object (.next key value rest) => do
      let a ← orFault key >>= chosen variants
      takeUnit value
      rest.takeEnd
      return a
  | .object (.broken fault _) | .broken fault _ => .error (.text fault)
  | _ => .error (.text .malformed)

/-! ## Records -/

/-- A field of a record, with a test of its data. -/
structure Field where
  name : String
  check : Decoder Unit

def Field.of {α : Type} (name : String) (decoder : Decoder α) : Field :=
  ⟨name, fun node => (decoder node).map fun _ => ()⟩

/-- The name of a kind of record and its fields in order. -/
structure Shape where
  name : String
  fields : List Field

def Shape.expected (shape : Shape) : String :=
  "struct " ++ shape.name

/-- The fields that a document gives, with data that fits. -/
structure Fields where
  present : List (String × Node)
  /-- What is wrong when a field that must be there is not. -/
  absent : String → Mismatch

/-- The members of an object that are fields.  An unknown member is skipped; a field given twice is
refused at its second name. -/
def Shape.takeMembers (shape : Shape) (seen : List (String × Node)) :
    Members → Decoded (List (String × Node))
  | .close => .ok seen.reverse
  | .broken taken _ => .error (.text taken)
  | .next key value rest => do
      let name ← orFault key
      match shape.fields.find? (·.name == name) with
      | none =>
          orFault value.skip
          shape.takeMembers seen rest
      | some field =>
          if (seen.lookup name).isSome then .error (.data (.duplicateField name))
          else
            field.check value
            shape.takeMembers ((name, value) :: seen) rest

/-- The items of an array as fields in their order; more items than fields are a fault. -/
def takeInOrder : List Field → Items → Decoded (List (String × Node))
  | _, .broken fault => .error (.text fault)
  | _, .close => .ok []
  | [], .next _ _ => .error (.text .malformed)
  | field :: fields, .next item rest => do
      field.check item
      let others ← takeInOrder fields rest
      return (field.name, item) :: others

def Shape.take (shape : Shape) : Decoder Fields
  | .object members => do
      let present ← shape.takeMembers [] members
      return ⟨present, .missingField⟩
  | .array items => do
      let present ← takeInOrder shape.fields items
      let count := String.ofList (digitsOf shape.fields.length)
      let expected := shape.expected ++ " with " ++ count ++ " elements"
      return ⟨present, fun _ => .wrongLength present.length expected⟩
  | node => refuse shape.expected node

/-- A field that must be there. -/
def Fields.required {α : Type} (fields : Fields) (name : String) (decoder : Decoder α) :
    Decoded α :=
  match fields.present.lookup name with
  | some node => decoder node
  | none => .error (.data (fields.absent name))

/-- A field that has a default. -/
def Fields.getD {α : Type} (fields : Fields) (name : String) (decoder : Decoder α) (default : α) :
    Decoded α :=
  match fields.present.lookup name with
  | some node => decoder node
  | none => .ok default

/-! ## Documents -/

/-- The data of a document; something after it is noticed last. -/
def Document.take {α : Type} (document : Document) (decoder : Decoder α) : Decoded α := do
  let a ← decoder document.root
  match document.trailing with
  | none => return a
  | some fault => .error (.text fault)

def takeDocument {α : Type} (decoder : Decoder α) (s : String) : Decoded α :=
  (Document.ofText s).take decoder

end AdaptiveView.Json

import AdaptiveView.Decimal.Shortest

/-!
# JSON values and their text

A value keeps the members of an object in order.  It is written without blanks, or spread over
lines with an indentation of two blanks.
-/

set_option autoImplicit false

namespace AdaptiveView.Json

open AdaptiveView.Decimal

/-- A number: a whole number of at most 64 bits, or a double. -/
inductive Number where
  | unsigned (n : Nat)
  /-- The number `-n`. -/
  | negative (n : Nat)
  | double (x : Float)

inductive Value where
  | null
  | bool (b : Bool)
  | number (n : Number)
  | text (s : String)
  | array (items : List Value)
  | object (members : List (String × Value))

instance : Inhabited Value := ⟨.null⟩

def Value.count (n : Nat) : Value :=
  .number (.unsigned n)

def Value.optional {α : Type} (toValue : α → Value) : Option α → Value
  | some a => toValue a
  | none => .null

/-- The text of a number; a double that is no number is written as null. -/
def Number.render : Number → String
  | .unsigned n => String.ofList (digitsOf n)
  | .negative n => String.ofList ('-' :: digitsOf n)
  | .double x => if x.isFinite then shortestText x else "null"

def escapeChar (c : Char) : List Char :=
  match c with
  | '"' => ['\\', '"']
  | '\\' => ['\\', '\\']
  | '\n' => ['\\', 'n']
  | '\r' => ['\\', 'r']
  | '\t' => ['\\', 't']
  | '\x08' => ['\\', 'b']
  | '\x0c' => ['\\', 'f']
  | c =>
      if c.toNat < 32 then
        let digits := Nat.toDigits 16 c.toNat
        ['\\', 'u'] ++ List.replicate (4 - digits.length) '0' ++ digits
      else [c]

def renderText (s : String) : String :=
  String.ofList ('"' :: s.toList.flatMap escapeChar ++ ['"'])

mutual

/-- The text of a value without blanks. -/
def Value.render : Value → String
  | .null => "null"
  | .bool b => if b then "true" else "false"
  | .number n => n.render
  | .text s => renderText s
  | .array items => "[" ++ ",".intercalate (renderItems items) ++ "]"
  | .object members => "\x7b" ++ ",".intercalate (renderMembers members) ++ "\x7d"

def renderItems : List Value → List String
  | [] => []
  | v :: rest => v.render :: renderItems rest

def renderMembers : List (String × Value) → List String
  | [] => []
  | (key, v) :: rest => (renderText key ++ ":" ++ v.render) :: renderMembers rest

end

/-- Lines of a block between two brackets, or the brackets alone around nothing. -/
def renderBlock (opening closing indent : String) (lines : List String) : String :=
  if lines.isEmpty then opening ++ closing
  else
    let inner := "\n" ++ indent ++ "  "
    opening ++ inner ++ ("," ++ inner).intercalate lines ++ "\n" ++ indent ++ closing

mutual

/-- The text of a value spread over lines, of which the later ones begin with `indent`. -/
def Value.renderLines (indent : String) : Value → String
  | .array items => renderBlock "[" "]" indent (itemLines (indent ++ "  ") items)
  | .object members => renderBlock "\x7b" "\x7d" indent (memberLines (indent ++ "  ") members)
  | .null => "null"
  | .bool b => if b then "true" else "false"
  | .number n => n.render
  | .text s => renderText s

def itemLines (indent : String) : List Value → List String
  | [] => []
  | v :: rest => v.renderLines indent :: itemLines indent rest

def memberLines (indent : String) : List (String × Value) → List String
  | [] => []
  | (key, v) :: rest =>
      (renderText key ++ ": " ++ v.renderLines indent) :: memberLines indent rest

end

end AdaptiveView.Json

import AdaptiveView.Text.ShapeTable

/-!
# Quoted texts

A text inside a message stands in double quotes.  Quotes, backslashes, tabs, line ends and NUL get
a backslash; a character without a shape of its own is written by its code point in hexadecimal.
-/

set_option autoImplicit false

namespace AdaptiveView.Text

def hexDigits (n : Nat) : List Char :=
  Nat.toDigits 16 n

/-- Whether a quoted text shows the character itself. -/
def isShown (c : Char) : Bool :=
  if c.toNat < 127 then ' ' ≤ c
  else !(shapelessRanges.holds c || fillerRanges.holds c || mergingRanges.holds c)

def quoteChar (c : Char) : List Char :=
  match c with
  | '"' => ['\\', '"']
  | '\\' => ['\\', '\\']
  | '\t' => ['\\', 't']
  | '\r' => ['\\', 'r']
  | '\n' => ['\\', 'n']
  | '\x00' => ['\\', '0']
  | c => if isShown c then [c] else ['\\', 'u', '\x7b'] ++ hexDigits c.toNat ++ ['\x7d']

/-- The text as a message quotes it. -/
def quoted (s : String) : String :=
  String.ofList ('"' :: s.toList.flatMap quoteChar ++ ['"'])

end AdaptiveView.Text

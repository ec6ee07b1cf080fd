/-!
# Numbers in plain text

Settings from the environment are numbers in plain text.  A count is an optional plus sign and
digits, below `2 ^ 64`.  A length is a sign, digits with at most one point among or beside them
and an exponent, or one of the names of the values that are no numbers; it becomes the nearest
double.
-/

set_option autoImplicit false

namespace AdaptiveView.Decimal

def splitDigits (cs : List Char) : List Char × List Char :=
  (cs.takeWhile Char.isDigit, cs.dropWhile Char.isDigit)

def ofDigits (cs : List Char) : Nat :=
  cs.foldl (fun n c => 10 * n + (c.toNat - '0'.toNat)) 0

/-- The number that digits alone write, if there are any. -/
def natOfChars? (cs : List Char) : Option Nat :=
  if cs.isEmpty || !cs.all Char.isDigit then none else some (ofDigits cs)

/-- The first count that does not fit into 64 bits. -/
def countLimit : Nat :=
  0x10000000000000000

/-- A count in plain text. -/
def readCount? (s : String) : Option Nat := do
  let digits := match s.toList with
    | '+' :: rest => rest
    | cs => cs
  let n ← natOfChars? digits
  if n < countLimit then some n else none

/-- The double nearest to `digits · 10 ^ exponent`.  Numbers beyond the range of doubles are
settled by their size, so that no power of ten grows out of hand. -/
def nearestDouble (digits : Nat) (exponent : Int) : Float :=
  let size : Int := (Nat.toDigits 10 digits).length + exponent
  if digits = 0 then 0
  else if 310 < size then 1.0 / 0.0
  else if size < -330 then 0
  else if 0 ≤ exponent then Float.ofScientific digits false exponent.toNat
  else Float.ofScientific digits true exponent.natAbs

/-- The exponent at the end of a number: none, or `e`, a sign and digits. -/
def readExponent? : List Char → Option Int
  | [] => some 0
  | c :: rest =>
      if c = 'e' || c = 'E' then
        match rest with
        | '-' :: digits => (natOfChars? digits).map fun n => -(n : Int)
        | '+' :: digits => (natOfChars? digits).map fun n => (n : Int)
        | digits => (natOfChars? digits).map fun n => (n : Int)
      else none

def readUnsigned? (cs : List Char) : Option Float := do
  let name := String.ofList (cs.map Char.toLower)
  if name = "nan" then return 0.0 / 0.0
  if name = "inf" || name = "infinity" then return 1.0 / 0.0
  let (whole, rest) := splitDigits cs
  let (places, rest) := match rest with
    | '.' :: rest => splitDigits rest
    | rest => ([], rest)
  if whole.isEmpty && places.isEmpty then none
  let exponent ← readExponent? rest
  return nearestDouble (ofDigits (whole ++ places)) (exponent - places.length)

def readLength? (s : String) : Option Float :=
  match s.toList with
  | '-' :: rest => (readUnsigned? rest).map fun x => -x
  | '+' :: rest => readUnsigned? rest
  | rest => readUnsigned? rest

end AdaptiveView.Decimal

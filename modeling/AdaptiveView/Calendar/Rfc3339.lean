import AdaptiveView.Calendar.Instant
import AdaptiveView.Decimal.Reading
import AdaptiveView.Text.Blank

/-!
# Dates and times in RFC 3339

Writing gives the form in UTC with a `Z` and a fraction of no, three, six or nine digits, whichever
is the shortest exact one; a year outside of 0 to 9999 carries a sign.  Reading is generous: blanks
may stand before each number and before the separators of a field, `T` may be small or a space, and
the zone is `UTC`, `Z` or an offset.
-/

set_option autoImplicit false

namespace AdaptiveView.Calendar

open AdaptiveView.Text AdaptiveView.Decimal

/-! ## Writing -/

/-- A number with zeros in front up to so many digits. -/
def paddedDigits (width n : Nat) : List Char :=
  let digits := Nat.toDigits 10 n
  List.replicate (width - digits.length) '0' ++ digits

def yearChars (year : Int) : List Char :=
  let sign := if year < 0 then ['-'] else if 9999 < year then ['+'] else []
  sign ++ paddedDigits 4 year.natAbs

def dayChars (d : Day) : List Char :=
  yearChars d.year ++ '-' :: paddedDigits 2 d.month ++ '-' :: paddedDigits 2 d.dayOfMonth

def minuteChars (second : Nat) : List Char :=
  paddedDigits 2 (second / 3600) ++ ':' :: paddedDigits 2 (second / 60 % 60)

/-- The fraction of a second in as few groups of three digits as are exact. -/
def fractionChars (nano : Nat) : List Char :=
  if nano = 0 then []
  else if nano % 1000000 = 0 then '.' :: paddedDigits 3 (nano / 1000000)
  else if nano % 1000 = 0 then '.' :: paddedDigits 6 (nano / 1000)
  else '.' :: paddedDigits 9 nano

/-- The written form; a leap second shows as second 60. -/
def Instant.chars (t : Instant) : List Char :=
  let extra := t.nano / nanosPerSecond
  dayChars t.day ++ 'T' :: minuteChars t.second ++ ':' ::
    paddedDigits 2 (t.second % 60 + extra) ++ fractionChars (t.nano % nanosPerSecond) ++ ['Z']

def Instant.text (t : Instant) : String :=
  String.ofList t.chars

/-- Day, hour and minute, as rows show them. -/
def Instant.shortText (t : Instant) : String :=
  String.ofList (dayChars t.day ++ ' ' :: minuteChars t.second)

/-! ## Reading -/

/-- A reader takes what it reads from the front of the characters and leaves the rest. -/
abbrev Taken (α : Type) :=
  Option (α × List Char)

/-- One to `width` digits, after blanks. -/
def takeNumber (width : Nat) (cs : List Char) : Taken Nat :=
  let cs := dropBlanks cs
  let digits := (cs.take width).takeWhile Char.isDigit
  if digits.isEmpty then none else some (ofDigits digits, cs.drop digits.length)

/-- A year: up to four digits, or a sign and any number of digits. -/
def takeYear (cs : List Char) : Taken Int :=
  match dropBlanks cs with
  | '-' :: rest =>
      let (digits, rest) := splitDigits rest
      if digits.isEmpty then none else some (-(ofDigits digits : Int), rest)
  | '+' :: rest =>
      let (digits, rest) := splitDigits rest
      if digits.isEmpty then none else some ((ofDigits digits : Int), rest)
  | cs => (takeNumber 4 cs).map fun (n, rest) => ((n : Int), rest)

/-- One of the given characters, at once. -/
def takeOneOf (marks : List Char) : List Char → Option (List Char)
  | c :: rest => if c ∈ marks then some rest else none
  | [] => none

/-- A mark between two fields, after blanks. -/
def takeMark (mark : Char) (cs : List Char) : Option (List Char) :=
  takeOneOf [mark] (dropBlanks cs)

/-- A fraction in nanoseconds: nothing, or a point and digits, of which nine count. -/
def takeFraction : List Char → Taken Nat
  | '.' :: rest =>
      let (digits, rest) := splitDigits rest
      let counted := digits.take 9
      if digits.isEmpty then none
      else some (ofDigits counted * Nat.pow 10 (9 - counted.length), rest)
  | cs => some (0, cs)

/-- Exactly two digits with a value up to the bound. -/
def takeTwoDigits (bound : Nat) : List Char → Taken Nat
  | c :: d :: rest =>
      let n := ofDigits [c, d]
      if c.isDigit && d.isDigit && n ≤ bound then some (n, rest) else none
  | _ => none

/-- Hours and minutes of an offset below one day, in seconds; colons and blanks may divide them. -/
def takeHoursMinutes (cs : List Char) : Taken Int :=
  match takeTwoDigits 99 cs with
  | none => none
  | some (hours, cs) =>
      match takeTwoDigits 59 (cs.dropWhile fun c => c = ':' || isBlank c) with
      | none => none
      | some (minutes, rest) =>
          let seconds := hours * 3600 + minutes * 60
          if seconds < 86400 then some ((seconds : Int), rest) else none

/-- The offset of the zone from UTC in seconds: `UTC`, `Z`, or a sign, hours and minutes. -/
def takeOffset (cs : List Char) : Taken Int :=
  match dropBlanks cs with
  | 'Z' :: rest | 'z' :: rest => some (0, rest)
  | '+' :: rest => takeHoursMinutes rest
  | '-' :: rest | '−' :: rest => (takeHoursMinutes rest).map fun (seconds, rest) => (-seconds, rest)
  | cs => if (cs.take 3).map Char.toUpper = ['U', 'T', 'C'] then some (0, cs.drop 3) else none

/-- The instant that a clock ahead of UTC by `offset` seconds shows like this. -/
def Instant.ofLocal? (day : Day) (second nano : Nat) (offset : Int) : Option Instant := do
  let _ ← Instant.ofParts? day second nano
  let utc : Int := second - offset
  if utc < 0 then Instant.ofParts? day.previous (utc + 86400).toNat nano
  else if 86400 ≤ utc then Instant.ofParts? day.next (utc - 86400).toNat nano
  else Instant.ofParts? day utc.toNat nano

def Instant.ofChars? (cs : List Char) : Option Instant := do
  let (year, cs) ← takeYear cs
  let (month, cs) ← takeMark '-' cs >>= takeNumber 2
  let (dayOfMonth, cs) ← takeMark '-' cs >>= takeNumber 2
  let (hour, cs) ← takeOneOf ['T', 't', ' '] cs >>= takeNumber 2
  let (minute, cs) ← takeMark ':' cs >>= takeNumber 2
  let (second, cs) ← takeMark ':' cs >>= takeNumber 2
  let (fraction, cs) ← takeFraction cs
  let (offset, cs) ← takeOffset cs
  if !(dropBlanks cs).isEmpty || hour ≥ 24 || minute ≥ 60 || second > 60 then none
  let day : Day := ⟨year, month, dayOfMonth⟩
  if second = 60 then
    Instant.ofLocal? day (hour * 3600 + minute * 60 + 59) (nanosPerSecond + fraction) offset
  else
    Instant.ofLocal? day (hour * 3600 + minute * 60 + second) fraction offset

def Instant.ofText? (s : String) : Option Instant :=
  Instant.ofChars? s.toList

end AdaptiveView.Calendar

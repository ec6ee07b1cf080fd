/-!
# Days

The Gregorian calendar carried on in both directions: lengths of months, neighbouring days and the
running number of a day.
-/

set_option autoImplicit false

namespace AdaptiveView.Calendar

def isLeapYear (year : Int) : Bool :=
  year % 4 == 0 && (year % 100 != 0 || year % 400 == 0)

/-- The number of days of a month counted from 1; other months have none. -/
def daysInMonth (year : Int) : Nat → Nat
  | 1 | 3 | 5 | 7 | 8 | 10 | 12 => 31
  | 4 | 6 | 9 | 11 => 30
  | 2 => if isLeapYear year then 29 else 28
  | _ => 0

structure Day where
  year : Int
  month : Nat
  dayOfMonth : Nat
  deriving DecidableEq

def firstYear : Int := -262143
def lastYear : Int := 262142

/-- A day that exists in one of the years covered. -/
def Day.Exists (d : Day) : Prop :=
  firstYear ≤ d.year ∧ d.year ≤ lastYear ∧ 1 ≤ d.month ∧ d.month ≤ 12 ∧
    1 ≤ d.dayOfMonth ∧ d.dayOfMonth ≤ daysInMonth d.year d.month

instance (d : Day) : Decidable d.Exists := by
  unfold Day.Exists
  infer_instance

def Day.next (d : Day) : Day :=
  if d.dayOfMonth < daysInMonth d.year d.month then { d with dayOfMonth := d.dayOfMonth + 1 }
  else if d.month < 12 then ⟨d.year, d.month + 1, 1⟩
  else ⟨d.year + 1, 1, 1⟩

def Day.previous (d : Day) : Day :=
  if 1 < d.dayOfMonth then { d with dayOfMonth := d.dayOfMonth - 1 }
  else if 1 < d.month then ⟨d.year, d.month - 1, daysInMonth d.year (d.month - 1)⟩
  else ⟨d.year - 1, 12, 31⟩

def Day.after (d : Day) (count : Nat) : Day :=
  Nat.repeat Day.next count d

/-- The days of the year before the month begins. -/
def daysBeforeMonth (year : Int) (month : Nat) : Nat :=
  (List.range (month - 1)).foldl (fun days passed => days + daysInMonth year (passed + 1)) 0

/-- Days counted through from the first day of the year 1, which has the number 1. -/
def Day.number (d : Day) : Int :=
  let passed := d.year - 1
  365 * passed + passed / 4 - passed / 100 + passed / 400 +
    daysBeforeMonth d.year d.month + d.dayOfMonth

theorem daysInMonth_le (year : Int) (month : Nat) : daysInMonth year month ≤ 31 := by
  unfold daysInMonth
  split <;> (try split) <;> omega

end AdaptiveView.Calendar

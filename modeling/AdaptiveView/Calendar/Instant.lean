import AdaptiveView.Calendar.Day

/-!
# Instants

A moment in UTC, to the nanosecond.  A leap second is the second before it with a fraction of one
second or more, so it sorts between its neighbours and keeps its own written form.
-/

set_option autoImplicit false

namespace AdaptiveView.Calendar

def nanosPerSecond : Nat := 1000000000

/-- A second of a day and a fraction of it.  Only the last second of a minute may be a leap
second, with a fraction past one whole second. -/
def ClockTime (second nano : Nat) : Prop :=
  second < 86400 ∧ nano < 2 * nanosPerSecond ∧ (nanosPerSecond ≤ nano → second % 60 = 59)

instance (second nano : Nat) : Decidable (ClockTime second nano) := by
  unfold ClockTime
  infer_instance

structure Instant where
  day : Day
  /-- Seconds since the day began. -/
  second : Nat
  nano : Nat
  dayExists : day.Exists
  clockTime : ClockTime second nano
  deriving DecidableEq

def Instant.ofParts? (day : Day) (second nano : Nat) : Option Instant :=
  if h : day.Exists ∧ ClockTime second nano then some ⟨day, second, nano, h.1, h.2⟩ else none

theorem Instant.ofParts?_self (t : Instant) :
    Instant.ofParts? t.day t.second t.nano = some t := by
  simp [Instant.ofParts?, t.dayExists, t.clockTime]

def Instant.earliest : Instant where
  day := ⟨firstYear, 1, 1⟩
  second := 0
  nano := 0
  dayExists := by decide
  clockTime := by decide

/-- The instant so many seconds and nanoseconds after the beginning of 1970. -/
def Instant.ofEpoch? (seconds nano : Nat) : Option Instant :=
  Instant.ofParts? (Day.after ⟨1970, 1, 1⟩ (seconds / 86400)) (seconds % 86400) nano

/-- Order in time: by day, then by second, then by fraction. -/
instance : Ord Instant where
  compare :=
    compareLex (compareOn (·.day.year)) <|
    compareLex (compareOn (·.day.month)) <|
    compareLex (compareOn (·.day.dayOfMonth)) <|
    compareLex (compareOn (·.second)) (compareOn (·.nano))

def Instant.isLeapSecond (t : Instant) : Bool :=
  nanosPerSecond ≤ t.nano

/-- The time from `start` to `finish` in nanoseconds.  A leap second that lies between the two on
the clock counts as a second of its own. -/
def Instant.nanosBetween (start finish : Instant) : Int :=
  let days := finish.day.number - start.day.number
  let seconds : Int := finish.second - start.second
  let leap : Int :=
    if start.second < finish.second then (if start.isLeapSecond then 1 else 0)
    else if finish.second < start.second then (if finish.isLeapSecond then -1 else 0)
    else 0
  let fraction : Int := finish.nano - start.nano
  (days * 86400 + seconds + leap) * nanosPerSecond + fraction

/-- The whole days from `start` to `finish`; a part of a day is dropped in either direction. -/
def Instant.wholeDaysBetween (start finish : Instant) : Int :=
  (start.nanosBetween finish).tdiv (86400 * nanosPerSecond)

end AdaptiveView.Calendar

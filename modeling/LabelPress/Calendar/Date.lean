/-
  Days of the Gregorian calendar and moments in them.

  A date is a day of the years 1 to 9999.  A moment adds a time
  of day to the microsecond and, possibly, an offset from
  universal time of less than a day.

  Key definitions include:
    * `Date`, with `daysIn` for the length of a month
    * `Clock`
    * `Offset`
    * `Moment`
-/

namespace LabelPress

------------------------------------------------------------
-- Dates
------------------------------------------------------------

/- Whether a year has a 29th of February. -/
def isLeapYear
    (year : Nat) :
    Bool :=
  year % 4 == 0 && (year % 100 != 0 || year % 400 == 0)

/- The number of days in a month. -/
def daysIn
    (year : Nat)
    (month : Nat) :
    Nat :=
  if month = 2 then if isLeapYear year then 29 else 28
  else if month = 4 ∨ month = 6 ∨ month = 9 ∨ month = 11 then 30
  else 31

/- Year, month and day name a day. -/
def Date.Valid
    (year : Nat)
    (month : Nat)
    (day : Nat) :
    Prop :=
  1 ≤ year ∧ year ≤ 9999 ∧ 1 ≤ month ∧ month ≤ 12 ∧
    1 ≤ day ∧ day ≤ daysIn year month

instance
    (year : Nat)
    (month : Nat)
    (day : Nat) :
    Decidable (Date.Valid year month day) := by
  unfold Date.Valid
  infer_instance

/- A day of the calendar. -/
structure Date where
  year : Nat
  month : Nat
  day : Nat
  valid : Date.Valid year month day
  deriving DecidableEq

namespace Date

/- The day with these numbers, if there is one. -/
def ofNumbers?
    (year : Nat)
    (month : Nat)
    (day : Nat) :
    Option Date :=
  if h : Valid year month day then some ⟨year, month, day, h⟩ else none

instance : Inhabited Date :=
  ⟨⟨1, 1, 1, by decide⟩⟩

end Date

------------------------------------------------------------
-- Times
------------------------------------------------------------

/- A time of day. -/
structure Clock where
  hour : Nat
  minute : Nat
  second : Nat
  microsecond : Nat
  valid :
    hour < 24 ∧ minute < 60 ∧ second < 60 ∧ microsecond < 1000000
  deriving DecidableEq

namespace Clock

/- The start of a day. -/
def midnight :
    Clock :=
  ⟨0, 0, 0, 0, by decide⟩

/- The time with these numbers, if there is one. -/
def ofNumbers?
    (hour : Nat)
    (minute : Nat)
    (second : Nat)
    (microsecond : Nat) :
    Option Clock :=
  if h :
      hour < 24 ∧ minute < 60 ∧ second < 60 ∧ microsecond < 1000000 then
    some ⟨hour, minute, second, microsecond, h⟩
  else none

end Clock

/- The microseconds in a second. -/
def microsPerSecond :
    Nat :=
  1000000

/- The microseconds in a day. -/
def microsPerDay :
    Nat :=
  86400 * microsPerSecond

/- Microseconds ahead of universal time, less than a day. -/
structure Offset where
  microseconds : Int
  valid : microseconds.natAbs < microsPerDay
  deriving DecidableEq

namespace Offset

/- The offset of these microseconds, if it is less than a day. -/
def ofMicroseconds?
    (microseconds : Int) :
    Option Offset :=
  if h : microseconds.natAbs < microsPerDay then some ⟨microseconds, h⟩
  else none

/- The offset of these minutes, if it is less than a day. -/
def ofMinutes?
    (minutes : Int) :
    Option Offset :=
  ofMicroseconds? (minutes * (60 * microsPerSecond : Nat))

/- Whether an offset is behind universal time. -/
def isNegative
    (o : Offset) :
    Bool :=
  o.microseconds < 0

/- The hours of an offset. -/
def hours
    (o : Offset) :
    Nat :=
  o.microseconds.natAbs / (3600 * microsPerSecond)

/- The minutes of an offset beyond its hours. -/
def minutes
    (o : Offset) :
    Nat :=
  o.microseconds.natAbs / (60 * microsPerSecond) % 60

/- The seconds of an offset beyond its minutes. -/
def seconds
    (o : Offset) :
    Nat :=
  o.microseconds.natAbs / microsPerSecond % 60

/- The microseconds of an offset beyond its seconds. -/
def micros
    (o : Offset) :
    Nat :=
  o.microseconds.natAbs % microsPerSecond

end Offset

/- A day, a time in it, and possibly an offset. -/
structure Moment where
  date : Date
  clock : Clock
  offset : Option Offset
  deriving DecidableEq

/- The start of a day. -/
def Date.atMidnight
    (d : Date) :
    Moment :=
  ⟨d, Clock.midnight, none⟩

end LabelPress

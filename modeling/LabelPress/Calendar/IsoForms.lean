import LabelPress.Calendar.Inspected
import LabelPress.Text.Quoted

/-
  All forms of ISO 8601 dates and moments.

  Besides the form in which dates and moments are written, a date
  may lack its hyphens or be named by its week, one character of
  any kind may stand before the time, and a time may end after
  its hours or minutes, lack its colons, and have a fraction of
  any length, of which six digits count.  An offset is written
  like a time.

  Key definitions include:
    * `IsoProblem`, with `IsoProblem.message`
    * `Date.ofIso`
    * `Moment.ofIso`
-/

namespace LabelPress

------------------------------------------------------------
-- Problems
------------------------------------------------------------

/- Why a text names no date or moment. -/
inductive IsoProblem where
  | malformed
  | year (given : Nat)
  | month
  | day
  | hour
  | minute
  | second
  | offset (microseconds : Int)
  deriving DecidableEq

/- The wording of a problem in a text. -/
def IsoProblem.message
    (text : Text) :
    IsoProblem → Text
  | malformed => "Invalid isoformat string: " ++ Text.quoted text
  | year given => "year " ++ toString given ++ " is out of range"
  | month => "month must be in 1..12"
  | day => "day is out of range for month"
  | hour => "hour must be in 0..23"
  | minute => "minute must be in 0..59"
  | second => "second must be in 0..59"
  | offset microseconds =>
      "offset must be a timedelta strictly between " ++
        "-timedelta(hours=24) and timedelta(hours=24), not " ++
        durationInspected microseconds ++ "."

------------------------------------------------------------
-- Weeks
------------------------------------------------------------

namespace Week

/- The weekday of the first of January, counted from Monday. -/
def firstWeekday
    (year : Nat) :
    Nat :=
  let passed := year - 1
  (365 * passed + passed / 4 - passed / 100 + passed / 400) % 7

/- Whether a year of weeks has 53 of them. -/
def isLong
    (year : Nat) :
    Bool :=
  firstWeekday year == 3 || (firstWeekday year == 2 && isLeapYear year)

/- The day of a month or a later one, counted from a month. -/
def monthDay
    (year : Nat)
    (month : Nat)
    (day : Nat) :
    Nat → Nat × Nat
  | 0 => (month, day)
  | months + 1 =>
      if day ≤ daysIn year month then (month, day)
      else monthDay year (month + 1) (day - daysIn year month) months

/- The days from the first of January to the first week. -/
def daysToFirst
    (year : Nat) :
    Int :=
  let w := firstWeekday year
  if 3 < w then 7 - w else -w

/- The year, month and day of a day of a week. -/
def numbers
    (year : Nat)
    (week : Nat)
    (day : Nat) :
    Nat × Nat × Nat :=
  let passed : Int :=
    daysToFirst year + 7 * (week - 1 : Nat) + (day - 1 : Nat)
  let total := if isLeapYear year then 366 else 365
  if passed < 0 then (year - 1, 12, 32 - passed.natAbs)
  else if passed.toNat < total then
    (year, monthDay year 1 (passed.toNat + 1) 12)
  else (year + 1, 1, passed.toNat + 1 - total)

/- Whether a week and a weekday exist in a year. -/
def exists?
    (year : Nat)
    (week : Nat)
    (day : Nat) :
    Bool :=
  1 ≤ week && (week ≤ 52 || (week == 53 && isLong year)) &&
    1 ≤ day && day ≤ 7

end Week

------------------------------------------------------------
-- Dates
------------------------------------------------------------

namespace IsoForm

/- The numbers of a date by its week, after the mark of weeks. -/
def weekDate?
    (hyphens : Bool)
    (year : Nat)
    (cs : Text) :
    Option (Nat × Nat × Nat) := do
  let (week, cs) ← Iso.number? 2 cs
  let day ←
    match cs with
    | [] => some 1
    | c :: rest => do
        let (day, _) ←
          if hyphens then
            if c = '-' then Iso.number? 1 rest else none
          else Iso.number? 1 cs
        some day
  if Week.exists? year week day then some (Week.numbers year week day)
  else none

/- The year, month and day of a date. -/
def dateNumbers?
    (cs : Text) :
    Option (Nat × Nat × Nat) := do
  let (year, cs) ← Iso.number? 4 cs
  let (hyphens, cs) :=
    match cs with
    | .char '-' :: rest => (true, rest)
    | rest => (false, rest)
  match cs with
  | .char 'W' :: cs => weekDate? hyphens year cs
  | cs => do
      let (month, cs) ← Iso.number? 2 cs
      let cs ← if hyphens then Iso.mark? '-' cs else some cs
      let (day, _) ← Iso.number? 2 cs
      some (year, month, day)

/- The date of a year, a month and a day. -/
def dateOf
    (year : Nat)
    (month : Nat)
    (day : Nat) :
    Except IsoProblem Date :=
  if year = 0 ∨ 9999 < year then .error (.year year)
  else if month = 0 ∨ 12 < month then .error .month
  else
    match Date.ofNumbers? year month day with
    | some date => .ok date
    | none => .error .day

------------------------------------------------------------
-- Times
------------------------------------------------------------

/- Hours, minutes, seconds and microseconds. -/
structure TimeNumbers where
  hour : Nat := 0
  minute : Nat := 0
  second : Nat := 0
  micro : Nat := 0

/- The numbers of a time in a list, and microseconds. -/
def TimeNumbers.ofList
    (numbers : List Nat)
    (micro : Nat) :
    TimeNumbers :=
  ⟨numbers.getD 0 0, numbers.getD 1 0, numbers.getD 2 0, micro⟩

/- A fraction, and whether something stands after its digits. -/
def fraction?
    (cs : Text) :
    Option (Nat × Bool) := do
  let width := min 6 cs.length
  let (n, rest) ← Iso.number? width cs
  some
    (tenfold n (6 - width),
      !(rest.dropWhile Text.isAsciiDigit).isEmpty)

/-
  The numbers of a time, of which some are read, and whether
  something stands after them.  Whether the numbers are divided
  by colons shows after the first.
-/
def timeFrom?
    (colons : Bool)
    (numbers : List Nat)
    (cs : Text) :
    Nat → Option (TimeNumbers × Bool)
  | 0 => do
      let (micro, more) ← fraction? cs
      some (.ofList numbers micro, more)
  | left + 1 => do
      let (n, rest) ← Iso.number? 2 cs
      let numbers := numbers ++ [n]
      match rest with
      | [] => some (.ofList numbers 0, false)
      | [_] => some (.ofList numbers 0, true)
      | c :: next =>
          let colons := if left = 2 then c == ':' else colons
          if colons && c == ':' then timeFrom? colons numbers next left
          else if c = '.' ∨ c = ',' then do
            let (micro, more) ← fraction? next
            some (.ofList numbers micro, more)
          else if colons then none
          else timeFrom? colons numbers rest left

/- The numbers of a time, and whether something stands after it. -/
def time?
    (cs : Text) :
    Option (TimeNumbers × Bool) :=
  timeFrom? false [] cs 3

/- The time of day of some numbers. -/
def clockOf
    (t : TimeNumbers) :
    Except IsoProblem Clock :=
  if 23 < t.hour then .error .hour
  else if 59 < t.minute then .error .minute
  else
    match Clock.ofNumbers? t.hour t.minute t.second t.micro with
    | some clock => .ok clock
    | none => .error .second

/- The offset of some numbers; without seconds there is none. -/
def offsetOf
    (negative : Bool)
    (t : TimeNumbers) :
    Except IsoProblem Offset :=
  let seconds := t.hour * 3600 + t.minute * 60 + t.second
  let length := if seconds = 0 then 0 else
    seconds * microsPerSecond + t.micro
  let microseconds := Double.signed negative length
  match Offset.ofMicroseconds? microseconds with
  | some o => .ok o
  | none => .error (.offset microseconds)

/- Whether a character begins an offset. -/
def beginsOffset
    (c : CodePoint) :
    Bool :=
  c == '+' || c == '-' || c == 'Z'

/- The numbers of a time of day, and the offset after it. -/
def timeOfDay
    (cs : Text) :
    Except IsoProblem (TimeNumbers × Option Offset) :=
  let zone := cs.dropWhile fun c => !beginsOffset c
  match time? (cs.takeWhile fun c => !beginsOffset c), zone with
  | none, _ => .error .malformed
  | some (t, more), [] => if more then .error .malformed else .ok (t, none)
  | some (t, _), .char 'Z' :: rest =>
      if rest = [] then do
        let o ← offsetOf false {}
        return (t, some o)
      else .error .malformed
  | some (t, _), sign :: rest =>
      match time? rest with
      | some (z, false) => do
          let o ← offsetOf (sign == '-') z
          return (t, some o)
      | _ => .error .malformed

------------------------------------------------------------
-- Dividing Date and Time
------------------------------------------------------------

/- Whether a digit stands at a place. -/
def digitAt
    (cs : Text)
    (place : Nat) :
    Bool :=
  (cs[place]?).any Text.isAsciiDigit

/- Whether a given character stands at a place. -/
def markAt
    (mark : CodePoint)
    (cs : Text)
    (place : Nat) :
    Bool :=
  cs[place]? == some mark

/- How many characters a date without hyphens by its week takes. -/
def shortWeekLength
    (cs : Text) :
    Nat :=
  let place := 7 + ((cs.drop 7).takeWhile Text.isAsciiDigit).length
  if place < 9 then place else if place % 2 = 0 then 7 else 8

/- How many characters the date at the start of a text takes. -/
def dateLength
    (cs : Text) :
    Nat :=
  if cs.length = 7 then 7
  else if markAt '-' cs 4 then
    if markAt 'W' cs 5 then
      if markAt '-' cs 8 then if digitAt cs 10 then 8 else 10
      else 8
    else 10
  else if markAt 'W' cs 4 then shortWeekLength cs
  else 8

end IsoForm

/- The date that a text denotes. -/
def Date.ofIso
    (s : Text) :
    Except IsoProblem Date :=
  match [7, 8, 10].contains s.length, IsoForm.dateNumbers? s with
  | true, some (year, month, day) => IsoForm.dateOf year month day
  | _, _ => .error .malformed

/- The moment that a text denotes. -/
def Moment.ofIso
    (s : Text) :
    Except IsoProblem Moment := do
  let length := IsoForm.dateLength s
  match IsoForm.dateNumbers? (s.take length) with
  | none => .error .malformed
  | some (year, month, day) =>
      let (t, offset) ←
        match s.drop length with
        | [] => .ok ({}, none)
        | _ :: time => IsoForm.timeOfDay time
      let date ← IsoForm.dateOf year month day
      let clock ← IsoForm.clockOf t
      return ⟨date, clock, offset⟩

end LabelPress

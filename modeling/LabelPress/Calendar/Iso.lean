import LabelPress.Calendar.Date
import LabelPress.Double.Printer
import LabelPress.Text.Blank
import LabelPress.Text.DecimalDigit

/-
  The ISO 8601 form of dates and moments.

  Written, a moment is its date, a separator, its time with six
  digits of microseconds unless they are zero, and its offset.
  Read, a text is a date, optionally a time of day to the minute,
  second or fraction, and optionally an offset or the letter Z.
  A suffix that follows the bare date is read as a time of day.

  Key definitions include:
    * `Date.isoText`, `Moment.isoText`
    * `Moment.ofText?`
-/

namespace LabelPress

------------------------------------------------------------
-- Writing
------------------------------------------------------------

/- Year, month and day joined by hyphens. -/
def Date.isoText
    (d : Date) :
    Text :=
  paddedDigits 4 d.year ++ "-" ++ paddedDigits 2 d.month ++ "-" ++
    paddedDigits 2 d.day

/- Hour, minute and second, and microseconds unless zero. -/
def Clock.isoText
    (t : Clock) :
    Text :=
  let fine : Text :=
    if t.microsecond = 0 then "" else "." ++ paddedDigits 6 t.microsecond
  paddedDigits 2 t.hour ++ ":" ++ paddedDigits 2 t.minute ++ ":" ++
    paddedDigits 2 t.second ++ fine

/- The seconds of an offset and its microseconds, unless zero. -/
def Offset.fineText
    (o : Offset) :
    Text :=
  if o.micros ≠ 0 then
    ":" ++ paddedDigits 2 o.seconds ++ "." ++ paddedDigits 6 o.micros
  else if o.seconds ≠ 0 then ":" ++ paddedDigits 2 o.seconds
  else ""

/- A signed offset in hours and minutes, and seconds unless zero. -/
def Offset.isoText
    (o : Offset) :
    Text :=
  (if o.isNegative then "-" else "+") ++ paddedDigits 2 o.hours ++ ":" ++
    paddedDigits 2 o.minutes ++ o.fineText

/- Date, separator, time and offset. -/
def Moment.isoTextWith
    (separator : Text)
    (m : Moment) :
    Text :=
  m.date.isoText ++ separator ++ m.clock.isoText ++
    match m.offset with
    | none => []
    | some o => o.isoText

/- The written form of a moment. -/
def Moment.isoText
    (m : Moment) :
    Text :=
  m.isoTextWith "T"

------------------------------------------------------------
-- Reading
------------------------------------------------------------

namespace Iso

/- Exactly `width` ASCII digits, and the rest. -/
def number?
    (width : Nat)
    (cs : Text) :
    Option (Nat × Text) :=
  match width, cs with
  | 0, cs => some (0, cs)
  | width + 1, c :: cs =>
      if Text.isAsciiDigit c then
        (number? width cs).map fun (n, rest) =>
          (tenfold (Text.asciiDigitValue c) width + n, rest)
      else none
  | _ + 1, [] => none

/- One given character, and the rest. -/
def mark?
    (c : CodePoint) :
    Text → Option Text
  | [] => none
  | d :: cs => if d = c then some cs else none

/- Four, two and two digits joined by hyphens. -/
def date?
    (cs : Text) :
    Option (Date × Text) := do
  let (year, cs) ← number? 4 cs
  let cs ← mark? '-' cs
  let (month, cs) ← number? 2 cs
  let cs ← mark? '-' cs
  let (day, cs) ← number? 2 cs
  let date ← Date.ofNumbers? year month day
  some (date, cs)

/- One to six digits after a point, in microseconds. -/
def fraction
    (cs : Text) :
    Option (Nat × Text) :=
  let ds := (cs.takeWhile Text.isAsciiDigit).take 6
  if ds = [] then none
  else
    (number? ds.length cs).map fun (n, rest) =>
      (tenfold n (6 - ds.length), rest)

/- Hours and minutes, then seconds, then a fraction. -/
def clock?
    (cs : Text) :
    Option (Clock × Text) := do
  let (hour, cs) ← number? 2 cs
  let cs ← mark? ':' cs
  let (minute, cs) ← number? 2 cs
  match cs with
  | .char ':' :: cs =>
      let (second, cs) ← number? 2 cs
      match cs with
      | .char '.' :: cs =>
          let (micro, cs) ← fraction cs
          let clock ← Clock.ofNumbers? hour minute second micro
          some (clock, cs)
      | cs =>
          let clock ← Clock.ofNumbers? hour minute second 0
          some (clock, cs)
  | cs =>
      let clock ← Clock.ofNumbers? hour minute 0 0
      some (clock, cs)

/-
  The numbers of a suffix that ends the text: a sign with hours
  and minutes, or the letter Z for zero.
-/
def suffix? :
    Text → Option (Bool × Nat × Nat)
  | [.char 'Z'] => some (false, 0, 0)
  | sign :: cs => do
      let negative ←
        if sign = '-' then some true
        else if sign = '+' then some false
        else none
      let (hour, cs) ← number? 2 cs
      let cs :=
        match cs with
        | .char ':' :: rest => rest
        | rest => rest
      let (minute, cs) ← number? 2 cs
      if cs = [] then some (negative, hour, minute) else none
  | [] => none

/- A suffix as an offset. -/
def offset?
    (cs : Text) :
    Option Offset := do
  let (negative, hour, minute) ← suffix? cs
  Offset.ofMinutes? (Double.signed negative (hour * 60 + minute))

/- What may follow the date. -/
def rest?
    (date : Date) :
    Text → Option Moment
  | [] => some date.atMidnight
  | c :: cs =>
      if c = 'T' ∨ c = ' ' then do
        let (clock, rest) ← clock? cs
        if rest = [] then some ⟨date, clock, none⟩
        else
          let offset ← offset? rest
          some ⟨date, clock, some offset⟩
      else do
        let (_, hour, minute) ← suffix? (c :: cs)
        let clock ← Clock.ofNumbers? hour minute 0 0
        some ⟨date, clock, none⟩

end Iso

/- The moment that a text denotes, blanks around it dropped. -/
def Moment.ofText?
    (s : Text) :
    Option Moment := do
  let (date, rest) ← Iso.date? (Text.trim s)
  Iso.rest? date rest

end LabelPress

import LabelPress.Calendar.Iso

/-
  Dates and moments spelled out by their parts.

  Inside other values, and in messages, a date or moment shows
  the numbers that it is made of, and an offset shows its length.

  Key definitions include:
    * `Date.inspected`, `Moment.inspected`
    * `Offset.inspected`, with `durationInspected`
-/

namespace LabelPress

------------------------------------------------------------
-- Days and Moments by Parts
------------------------------------------------------------

/- A list of texts in brackets. -/
def bracketed
    (opening : Text)
    (closing : Text)
    (parts : List Text) :
    Text :=
  opening ++ Text.intercalate ", " parts ++ closing

/- A day by its parts. -/
def Date.inspected
    (d : Date) :
    Text :=
  bracketed "datetime.date(" ")"
    ([d.year, d.month, d.day].map (Text.digits 10))

/- A field with its name, unless it is zero. -/
def namedUnlessZero
    (name : Text)
    (n : Int) :
    List Text :=
  if n = 0 then [] else [name ++ "=" ++ toString n]

/-
  A length of time by its parts.  Only the days may be negative.
-/
def durationInspected
    (microseconds : Int) :
    Text :=
  let rest := microseconds % microsPerDay
  let parts :=
    namedUnlessZero "days" (microseconds / microsPerDay) ++
      namedUnlessZero "seconds" (rest / microsPerSecond) ++
      namedUnlessZero "microseconds" (rest % microsPerSecond)
  bracketed "datetime.timedelta(" ")" (if parts = [] then ["0"] else parts)

/- An offset by its length. -/
def Offset.inspected
    (o : Offset) :
    Text :=
  if o.microseconds = 0 then "datetime.timezone.utc"
  else
    bracketed "datetime.timezone(" ")" [durationInspected o.microseconds]

/-
  A moment by its parts.  Microseconds are left out when zero,
  and the seconds with them when they are zero too.
-/
def Moment.inspected
    (m : Moment) :
    Text :=
  let d := m.date
  let t := m.clock
  let fine :=
    if t.microsecond ≠ 0 then [t.second, t.microsecond]
    else if t.second ≠ 0 then [t.second]
    else []
  let parts := [d.year, d.month, d.day, t.hour, t.minute] ++ fine
  let zone : List Text :=
    match m.offset with
    | none => []
    | some o => ["tzinfo=" ++ o.inspected]
  bracketed "datetime.datetime(" ")"
    (parts.map (Text.digits 10) ++ zone)

end LabelPress

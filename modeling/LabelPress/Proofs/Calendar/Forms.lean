import LabelPress.Calendar.Iso
import Mathlib.Algebra.Group.Nat.Defs
import Mathlib.Data.Option.Basic
import Mathlib.Tactic.SplitIfs

/-
  Forms of written moments.

  A written moment is a date, then possibly a time to the minute,
  second or fraction, and then possibly a zone.  A form holds the
  numbers that stand in such a text, and how they are set, but not
  whether there are such days and times.  It says what the text
  means.  A zone right behind a date is not read as a zone, but as
  the time of day.

  Main declarations:
    * `Iso.Form`, with its `Iso.Form.text`
    * `Iso.Form.moment?`, `Iso.Form.Says`
    * `Iso.Form.asRead`
    * `Iso.Form.says_iff_of_asRead`
-/

namespace LabelPress

namespace Iso

------------------------------------------------------------
-- Times
------------------------------------------------------------

/- A fraction of a second in one to six digits. -/
structure FractionForm where
  width : Nat
  digits : Nat
  valid : 1 ≤ width ∧ width ≤ 6 ∧ digits < 10 ^ width

/- Seconds, possibly with a fraction. -/
structure SecondForm where
  second : Fin 100
  fraction : Option FractionForm

/- Hours and minutes, possibly with seconds. -/
structure ClockForm where
  hour : Fin 100
  minute : Fin 100
  second : Option SecondForm

/- A time of day behind a blank or the letter T. -/
structure TimeForm where
  spaced : Bool
  clock : ClockForm

/- The digits of a fraction behind a point. -/
def FractionForm.text
    (f : FractionForm) :
    Text :=
  "." ++ paddedDigits f.width f.digits

/- A fraction in microseconds. -/
def FractionForm.micros
    (f : FractionForm) :
    Nat :=
  f.digits * 10 ^ (6 - f.width)

/- Seconds behind a colon. -/
def SecondForm.text
    (s : SecondForm) :
    Text :=
  ":" ++ paddedDigits 2 s.second ++ s.fraction.elim [] FractionForm.text

/- The microseconds that a fraction gives to seconds. -/
def SecondForm.micros
    (s : SecondForm) :
    Nat :=
  s.fraction.elim 0 FractionForm.micros

/- Hours, minutes and what follows. -/
def ClockForm.text
    (c : ClockForm) :
    Text :=
  paddedDigits 2 c.hour ++ ":" ++ paddedDigits 2 c.minute ++
    c.second.elim [] SecondForm.text

/- The time of day with the numbers that are written. -/
def ClockForm.clock?
    (c : ClockForm) :
    Option Clock :=
  Clock.ofNumbers? c.hour c.minute
    (c.second.elim 0 fun s => s.second)
    (c.second.elim 0 SecondForm.micros)

/- What separates a time from a date. -/
def TimeForm.separator
    (t : TimeForm) :
    CodePoint :=
  if t.spaced then ' ' else 'T'

/- The separator and the time. -/
def TimeForm.text
    (t : TimeForm) :
    Text :=
  t.separator :: t.clock.text

------------------------------------------------------------
-- Zones
------------------------------------------------------------

/- The letter Z, or a signed offset with or without a colon. -/
inductive ZoneForm where
  | zulu
  | signed
      (negative : Bool)
      (colon : Bool)
      (hour : Fin 100)
      (minute : Fin 100)

/- The sign of an offset. -/
def zoneSign
    (negative : Bool) :
    Text :=
  if negative then "-" else "+"

namespace ZoneForm

/- A zone as it is written. -/
def text :
    ZoneForm → Text
  | zulu => "Z"
  | signed negative colon hour minute =>
      zoneSign negative ++ paddedDigits 2 hour ++
        (if colon then ":" else "") ++ paddedDigits 2 minute

/- The hours and minutes of a zone as a time of day. -/
def clock :
    ZoneForm → ClockForm
  | zulu => ⟨0, 0, none⟩
  | signed _ _ hour minute => ⟨hour, minute, none⟩

/- The minutes of a zone ahead of universal time. -/
def minutes :
    ZoneForm → Int
  | zulu => 0
  | signed negative _ hour minute =>
      Double.signed negative (hour * 60 + minute)

end ZoneForm

------------------------------------------------------------
-- Moments
------------------------------------------------------------

/- A date, possibly a time, possibly a zone. -/
structure Form where
  year : Fin 10000
  month : Fin 100
  day : Fin 100
  time : Option TimeForm
  zone : Option ZoneForm

namespace Form

variable {w : Form}
variable {m : Moment}

/- The numbers of the date between hyphens. -/
def dateText
    (w : Form) :
    Text :=
  paddedDigits 4 w.year ++ "-" ++ paddedDigits 2 w.month ++ "-" ++
    paddedDigits 2 w.day

/- A moment as it is written. -/
def text
    (w : Form) :
    Text :=
  w.dateText ++ w.time.elim [] TimeForm.text ++
    w.zone.elim [] ZoneForm.text

/- The day with the numbers that are written. -/
def date?
    (w : Form) :
    Option Date :=
  Date.ofNumbers? w.year w.month w.day

/- The time of day that is written, or the start of the day. -/
def clock?
    (w : Form) :
    Option Clock :=
  w.time.elim (some Clock.midnight) fun t => t.clock.clock?

/- The offset that is written, if any. -/
def offset?
    (w : Form) :
    Option (Option Offset) :=
  w.zone.elim (some none) fun z =>
    (Offset.ofMinutes? z.minutes).map some

/- The moment with these parts. -/
def moment?
    (w : Form) :
    Option Moment := do
  let date ← w.date?
  let clock ← w.clock?
  let offset ← w.offset?
  some ⟨date, clock, offset⟩

/- The hour, minute, second and microsecond that are written. -/
def clockNumbers
    (w : Form) :
    Nat × Nat × Nat × Nat :=
  w.time.elim (0, 0, 0, 0) fun t =>
    (t.clock.hour, t.clock.minute,
      t.clock.second.elim 0 fun s => s.second,
      t.clock.second.elim 0 SecondForm.micros)

/-
  Whether a moment is what is written: it has the numbers of the
  date, those of the time or zeros, and just the offset of a zone.
-/
structure Says
    (w : Form)
    (m : Moment) :
    Prop where
  year : m.date.year = w.year
  month : m.date.month = w.month
  day : m.date.day = w.day
  clock :
    (m.clock.hour, m.clock.minute, m.clock.second,
      m.clock.microsecond) = w.clockNumbers
  offset :
    m.offset.map Offset.microseconds =
      w.zone.map fun z => z.minutes * 60000000

/-
  The form that a text is read in: without a time, a zone stands
  for the time.
-/
def asRead
    (w : Form) :
    Form :=
  match w.time, w.zone with
  | none, some z =>
      { w with time := some ⟨false, z.clock⟩, zone := none }
  | _, _ => w

end Form

end Iso

------------------------------------------------------------
-- Parts with Given Numbers
------------------------------------------------------------

theorem Date.ofNumbers?_eq_some_iff
    {year month day : Nat}
    {d : Date} :
    ofNumbers? year month day = some d ↔
      d.year = year ∧ d.month = month ∧ d.day = day := by
  unfold ofNumbers?
  split_ifs with hValid
  · rw [Option.some.injEq]
    constructor
    · rintro rfl
      exact ⟨rfl, rfl, rfl⟩
    · rintro ⟨rfl, rfl, rfl⟩
      rfl
  · refine iff_of_false nofun ?_
    rintro ⟨rfl, rfl, rfl⟩
    exact hValid d.valid

theorem Date.ofNumbers?_eq_none
    {year month day : Nat}
    (hNone : ¬ Valid year month day) :
    ofNumbers? year month day = none :=
  dif_neg hNone

theorem Clock.ofNumbers?_eq_some_iff
    {hour minute second micro : Nat}
    {c : Clock} :
    ofNumbers? hour minute second micro = some c ↔
      (c.hour, c.minute, c.second, c.microsecond) =
        (hour, minute, second, micro) := by
  simp only [Prod.mk.injEq]
  unfold ofNumbers?
  split_ifs with hValid
  · rw [Option.some.injEq]
    constructor
    · rintro rfl
      exact ⟨rfl, rfl, rfl, rfl⟩
    · rintro ⟨rfl, rfl, rfl, rfl⟩
      rfl
  · refine iff_of_false nofun ?_
    rintro ⟨rfl, rfl, rfl, rfl⟩
    exact hValid c.valid

theorem Clock.ofNumbers?_eq_none
    {hour minute second micro : Nat}
    (hNone :
      ¬ (hour < 24 ∧ minute < 60 ∧ second < 60 ∧ micro < 1000000)) :
    ofNumbers? hour minute second micro = none :=
  dif_neg hNone

theorem Offset.ofMicroseconds?_eq_some_iff
    {n : Int}
    {o : Offset} :
    ofMicroseconds? n = some o ↔ o.microseconds = n := by
  unfold ofMicroseconds?
  split_ifs with hValid
  · rw [Option.some.injEq]
    constructor
    · rintro rfl
      rfl
    · rintro rfl
      rfl
  · refine iff_of_false nofun ?_
    rintro rfl
    exact hValid o.valid

theorem Offset.ofMinutes?_eq_some_iff
    {minutes : Int}
    {o : Offset} :
    ofMinutes? minutes = some o ↔
      o.microseconds = minutes * 60000000 :=
  ofMicroseconds?_eq_some_iff

namespace Iso.Form

variable {w : Form}
variable {m : Moment}

theorem clock?_eq_some_iff
    {c : Clock} :
    w.clock? = some c ↔
      (c.hour, c.minute, c.second, c.microsecond) =
        w.clockNumbers := by
  unfold clock? clockNumbers
  cases w.time with
  | none =>
      have hMidnight :
          Clock.ofNumbers? 0 0 0 0 = some Clock.midnight := rfl
      rw [Option.elim_none, Option.elim_none, ← hMidnight]
      exact Clock.ofNumbers?_eq_some_iff
  | some t => exact Clock.ofNumbers?_eq_some_iff

theorem offset?_eq_some_iff
    {o? : Option Offset} :
    w.offset? = some o? ↔
      o?.map Offset.microseconds =
        w.zone.map fun z => z.minutes * 60000000 := by
  unfold offset?
  cases w.zone with
  | none =>
      rw [Option.elim_none, Option.map_none, Option.map_eq_none_iff,
        Option.some.injEq]
      exact eq_comm
  | some z =>
      rw [Option.elim_some, Option.map_some, Option.map_eq_some_iff,
        Option.map_eq_some_iff]
      simp only [Offset.ofMinutes?_eq_some_iff]
      constructor
      · rintro ⟨o, hMinutes, rfl⟩
        exact ⟨o, rfl, hMinutes⟩
      · rintro ⟨o, rfl, hMinutes⟩
        exact ⟨o, hMinutes, rfl⟩

/- The moment of a form is the one that it says. -/
theorem moment?_eq_some_iff :
    w.moment? = some m ↔ w.Says m := by
  unfold moment? date?
  simp only [Option.bind_eq_bind, Option.bind_eq_some_iff,
    Date.ofNumbers?_eq_some_iff, clock?_eq_some_iff,
    offset?_eq_some_iff, Option.some.injEq]
  constructor
  · rintro ⟨d, ⟨hYear, hMonth, hDay⟩, c, hClock, o?, hOffset, rfl⟩
    exact ⟨hYear, hMonth, hDay, hClock, hOffset⟩
  · rintro ⟨hYear, hMonth, hDay, hClock, hOffset⟩
    exact ⟨_, ⟨hYear, hMonth, hDay⟩, _, hClock, _, hOffset, rfl⟩

theorem asRead_of_some
    {t : TimeForm}
    (hTime : w.time = some t) :
    w.asRead = w := by
  unfold asRead
  rw [hTime]

theorem asRead_of_zone
    {z : ZoneForm}
    (hTime : w.time = none)
    (hZone : w.zone = some z) :
    w.asRead =
      { w with time := some ⟨false, z.clock⟩, zone := none } := by
  unfold asRead
  rw [hTime, hZone]

theorem asRead_of_none
    (hZone : w.zone = none) :
    w.asRead = w := by
  unfold asRead
  rw [hZone]
  cases w.time with
  | none => rfl
  | some t => rfl

/- A form is read with the date that it has. -/
theorem asRead_eq
    (w : Form) :
    w.asRead =
      { w with time := w.asRead.time, zone := w.asRead.zone } := by
  unfold asRead
  split
  · rfl
  · rfl

theorem date?_asRead
    (w : Form) :
    w.asRead.date? = w.date? := by
  rw [asRead_eq]
  rfl

/-
  A text that is read in a form says what is read, unless it has a
  zone and no time.
-/
theorem says_iff_of_asRead
    (hRead : w.asRead.Says m) :
    w.Says m ↔ w.time.isSome = true ∨ w.zone = none := by
  cases hTime : w.time with
  | some t =>
      rw [asRead_of_some hTime] at hRead
      exact iff_of_true hRead (.inl rfl)
  | none =>
      cases hZone : w.zone with
      | none =>
          rw [asRead_of_none hZone] at hRead
          exact iff_of_true hRead (.inr rfl)
      | some z =>
          rw [asRead_of_zone hTime hZone] at hRead
          refine iff_of_false ?_ (by simp)
          intro hSays
          have hOffset := hSays.offset
          have hNone := Option.map_eq_none_iff.mp hRead.offset
          rw [hZone, hNone] at hOffset
          cases hOffset

end Iso.Form

end LabelPress

import LabelPress.Machine.Usual
import LabelPress.Proofs.Calendar.Reading
import LabelPress.Variable.Resolution

/-
  Written moments read back.

  What is written for a day, or for a moment whose offset is in
  whole minutes, is in a form that says just this moment, so that
  it is read back, with blanks around it or not.  A binding to the
  text therefore renders as a binding to the day or moment.

  Main declarations:
    * `Moment.IsInMinutes`
    * `Moment.form`, `Moment.says_form`
    * `IsWrittenAs`
    * `IsWrittenAs.interchangeable`
-/

namespace LabelPress

open Iso

------------------------------------------------------------
-- Bounds of the Parts
------------------------------------------------------------

theorem Date.year_lt
    (d : Date) :
    d.year < 10000 :=
  Nat.lt_succ_of_le d.valid.2.1

theorem Date.month_lt
    (d : Date) :
    d.month < 100 :=
  Nat.lt_of_le_of_lt d.valid.2.2.2.1 (by decide)

theorem Date.day_lt
    (d : Date) :
    d.day < 100 := by
  have hLast := d.valid.2.2.2.2.2
  unfold daysIn at hLast
  split_ifs at hLast <;> omega

theorem Clock.minute_lt
    (t : Clock) :
    t.minute < 100 :=
  Nat.lt_trans t.valid.2.1 (by decide)

theorem Clock.second_lt
    (t : Clock) :
    t.second < 100 :=
  Nat.lt_trans t.valid.2.2.1 (by decide)

theorem Offset.hours_lt
    (o : Offset) :
    o.hours < 100 := by
  have hDay := o.valid
  unfold Offset.hours
  unfold microsPerDay at hDay
  unfold microsPerSecond at *
  omega

theorem Offset.minutes_lt
    (o : Offset) :
    o.minutes < 100 :=
  Nat.lt_trans (Nat.mod_lt _ (by decide)) (by decide)

------------------------------------------------------------
-- Forms of Days, Times and Offsets
------------------------------------------------------------

/- The fraction of a second, unless it is zero. -/
def Clock.fractionForm
    (t : Clock) :
    Option FractionForm :=
  if t.microsecond = 0 then none
  else
    some
      { width := 6
        digits := t.microsecond
        valid := ⟨by decide, by decide, t.valid.2.2.2⟩ }

/- The form of a time of day. -/
def Clock.form
    (t : Clock) :
    TimeForm where
  spaced := false
  clock :=
    { hour := ⟨t.hour, Nat.lt_trans t.valid.1 (by decide)⟩
      minute := ⟨t.minute, t.minute_lt⟩
      second := some
        { second := ⟨t.second, t.second_lt⟩
          fraction := t.fractionForm } }

/- The form of an offset. -/
def Offset.form
    (o : Offset) :
    ZoneForm :=
  .signed o.isNegative true ⟨o.hours, o.hours_lt⟩
    ⟨o.minutes, o.minutes_lt⟩

/- The form of a day with a time and a zone. -/
def Date.form
    (d : Date)
    (time : Option TimeForm)
    (zone : Option ZoneForm) :
    Form where
  year := ⟨d.year, d.year_lt⟩
  month := ⟨d.month, d.month_lt⟩
  day := ⟨d.day, d.day_lt⟩
  time := time
  zone := zone

theorem Clock.text_form
    (t : Clock) :
    t.form.text = Text.ofString "T" ++ t.isoText := by
  have hParts :
      t.form.text =
        Text.ofString "T" ++
          (paddedDigits 2 t.hour ++ Text.ofString ":" ++
            paddedDigits 2 t.minute ++
              (Text.ofString ":" ++ paddedDigits 2 t.second ++
                t.fractionForm.elim [] FractionForm.text)) := rfl
  have hFine :
      t.fractionForm.elim [] FractionForm.text =
        if t.microsecond = 0 then Text.ofString ""
        else Text.ofString "." ++ paddedDigits 6 t.microsecond := by
    unfold Clock.fractionForm
    split_ifs with hWhole
    · rfl
    · rfl
  rw [hParts, hFine, Clock.isoText]
  simp only [List.append_assoc]

/- What is written for a day and a time, and for a zone. -/
theorem Date.text_form
    (d : Date)
    (t : Clock)
    (zone : Option ZoneForm) :
    (d.form (some t.form) zone).text =
      d.isoText ++ Text.ofString "T" ++ t.isoText ++
        zone.elim [] ZoneForm.text := by
  have hParts :
      (d.form (some t.form) zone).text =
        d.isoText ++ t.form.text ++ zone.elim [] ZoneForm.text := rfl
  rw [hParts, t.text_form, ← List.append_assoc d.isoText]

theorem Clock.micros_fractionForm
    (t : Clock) :
    t.fractionForm.elim 0 FractionForm.micros = t.microsecond := by
  unfold Clock.fractionForm
  split_ifs with hWhole
  · exact hWhole.symm
  · exact Nat.mul_one t.microsecond

/- A time of day does not end like an offset of zero. -/
theorem Clock.append_isoText_ne
    (t : Clock)
    (before start : Text) :
    before ++ t.isoText ≠ start ++ Text.ofString "+00:00" := by
  have hMinute := Text.length_two t.minute_lt
  have hSecond := Text.length_two t.second_lt
  intro hText
  -- the last six characters start with a colon, or are digits
  by_cases hWhole : t.microsecond = 0
  · have hParts :
        before ++ t.isoText =
          (before ++ paddedDigits 2 t.hour) ++
            (.char ':' :: (paddedDigits 2 t.minute ++
              .char ':' :: paddedDigits 2 t.second)) := by
      simp [Clock.isoText, hWhole, Text.ofString]
    have hLength :
        (CodePoint.char ':' :: (paddedDigits 2 t.minute ++
            .char ':' :: paddedDigits 2 t.second)).length =
          (Text.ofString "+00:00").length := by
      simp [hMinute, hSecond, Text.ofString]
    rw [hParts] at hText
    have hSame := (List.append_inj' hText hLength).2
    exact absurd (List.cons.inj hSame).1 (by decide)
  · have hParts :
        before ++ t.isoText =
          (before ++ (paddedDigits 2 t.hour ++ Text.ofString ":" ++
            paddedDigits 2 t.minute ++ Text.ofString ":" ++
              paddedDigits 2 t.second ++ Text.ofString ".")) ++
            paddedDigits 6 t.microsecond := by
      simp [Clock.isoText, hWhole]
    have hLength :=
      Text.length_paddedDigits (by decide : 0 < 6) t.valid.2.2.2
    rw [hParts] at hText
    have hSame := (List.append_inj' hText hLength).2
    have hPlus :
        CodePoint.char '+' ∈ paddedDigits 6 t.microsecond := by
      rw [hSame]
      exact List.mem_cons_self
    exact absurd (Text.isAsciiDigit_of_mem_paddedDigits hPlus)
      (by decide)

/- Whether the offset of a moment, if any, is in whole minutes. -/
def Moment.IsInMinutes
    (m : Moment) :
    Prop :=
  ∀ o ∈ m.offset, o.microseconds % 60000000 = 0

section Minutes

variable {o : Offset}
variable (hMinutes : o.microseconds % 60000000 = 0)

include hMinutes

theorem Offset.text_form :
    o.form.text = o.isoText := by
  have hSeconds : o.seconds = 0 := by
    unfold Offset.seconds microsPerSecond
    omega
  have hMicros : o.micros = 0 := by
    unfold Offset.micros microsPerSecond
    omega
  have hFine : o.fineText = [] := by
    rw [Offset.fineText, if_neg (not_not.mpr hMicros),
      if_neg (not_not.mpr hSeconds)]
    rfl
  rw [Offset.isoText, hFine, List.append_nil]
  unfold Offset.form ZoneForm.text zoneSign
  cases o.isNegative with
  | false => rfl
  | true => rfl

theorem Offset.length_isoText :
    o.isoText.length = 6 := by
  have hHours := Text.length_two o.hours_lt
  have hMinute := Text.length_two o.minutes_lt
  rw [← Offset.text_form hMinutes]
  unfold Offset.form ZoneForm.text zoneSign
  cases o.isNegative with
  | false => simp [hHours, hMinute, Text.ofString]
  | true => simp [hHours, hMinute, Text.ofString]

theorem Offset.minutes_form :
    o.form.minutes * 60000000 = o.microseconds := by
  have hLength :
      (o.hours * 60 + o.minutes) * 60000000 = o.microseconds.natAbs := by
    unfold Offset.hours Offset.minutes microsPerSecond
    omega
  unfold Offset.form ZoneForm.minutes Double.signed Offset.isNegative
  dsimp only
  split_ifs with hNegative
  · rw [decide_eq_true_eq] at hNegative
    omega
  · rw [decide_eq_true_eq] at hNegative
    omega

end Minutes

------------------------------------------------------------
-- Forms of Moments
------------------------------------------------------------

namespace Moment

variable {m : Moment}

/- The form that a moment is written in. -/
def form
    (m : Moment) :
    Form :=
  m.date.form (some m.clock.form) (m.offset.map Offset.form)

theorem text_form
    (hMinutes : m.IsInMinutes) :
    m.form.text = m.isoText := by
  rcases m with ⟨d, t, offset⟩
  refine (Date.text_form d t (offset.map Offset.form)).trans ?_
  cases offset with
  | none => rfl
  | some o =>
      have hOffset := Offset.text_form (hMinutes o rfl)
      exact congrArg (d.isoText ++ Text.ofString "T" ++ t.isoText ++ ·)
        hOffset

/- The form of a time says the time. -/
theorem clock_form
    (m : Moment)
    (zone : Option ZoneForm) :
    (m.clock.hour, m.clock.minute, m.clock.second,
        m.clock.microsecond) =
      (m.date.form (some m.clock.form) zone).clockNumbers := by
  have hMicros := m.clock.micros_fractionForm
  exact congrArg
    (fun n => (m.clock.hour, m.clock.minute, m.clock.second, n))
    hMicros.symm

theorem says_form
    (hMinutes : m.IsInMinutes) :
    m.form.Says m where
  year := rfl
  month := rfl
  day := rfl
  clock := m.clock_form _
  offset := by
    rcases m with ⟨d, t, offset⟩
    cases offset with
    | none => rfl
    | some o =>
        exact congrArg some (Offset.minutes_form (hMinutes o rfl)).symm

/- Only an offset of zero is written as one. -/
theorem zero_of_isoText
    {start : Text}
    (hMinutes : m.IsInMinutes)
    (hText : m.isoText = start ++ Text.ofString "+00:00") :
    start = m.date.isoText ++ Text.ofString "T" ++ m.clock.isoText ∧
      m.offset.map Offset.microseconds = some 0 := by
  rcases m with ⟨d, t, offset⟩
  cases offset with
  | none =>
      rw [isoText, isoTextWith, List.append_nil] at hText
      exact absurd hText (t.append_isoText_ne _ _)
  | some o =>
      have hWhole := hMinutes o rfl
      have hParts :
          d.isoText ++ Text.ofString "T" ++ t.isoText ++ o.isoText =
            start ++ Text.ofString "+00:00" := hText
      rcases List.append_inj' hParts
        (Offset.length_isoText hWhole) with ⟨hStart, hSame⟩
      -- both are read as offsets, and this one as its own
      have hRead := offset?_text o.form
      have hZero := offset?_text (.signed false true 0 0)
      rw [Offset.text_form hWhole, hSame] at hRead
      have hOwn : Offset.ofMinutes? o.form.minutes = some o :=
        Offset.ofMinutes?_eq_some_iff.mpr
          (Offset.minutes_form hWhole).symm
      have hNone : o.microseconds = 0 :=
        Offset.ofMinutes?_eq_some_iff.mp
          (hZero.symm.trans (hRead.trans hOwn))
      exact ⟨hStart.symm, congrArg some hNone⟩

end Moment

------------------------------------------------------------
-- Written Values
------------------------------------------------------------

/-
  What is written for a day, which is its start, or for a moment.
  The letter Z may stand for an offset of zero.
-/
inductive IsWrittenAs :
    Value → Moment → Text → Prop where
  | day
      (d : Date) :
      IsWrittenAs (.date d) d.atMidnight d.isoText
  | moment
      {m : Moment}
      (hMinutes : m.IsInMinutes) :
      IsWrittenAs (.moment m) m m.isoText
  | zulu
      {m : Moment}
      {start : Text}
      (hMinutes : m.IsInMinutes)
      (hText : m.isoText = start ++ Text.ofString "+00:00") :
      IsWrittenAs (.moment m) m (start ++ Text.ofString "Z")

namespace IsWrittenAs

variable {v : Value}
variable {m : Moment}
variable {t before after : Text}

/- What is written is in a form that says what it is written for. -/
theorem exists_form
    (hText : IsWrittenAs v m t) :
    ∃ w : Form, w.text = t ∧ w.asRead.Says m := by
  cases hText with
  | day d =>
      refine ⟨d.form none none, ?_, rfl, rfl, rfl, rfl, rfl⟩
      exact (List.append_nil _).trans (List.append_nil _)
  | moment hMinutes =>
      refine ⟨m.form, Moment.text_form hMinutes, ?_⟩
      rw [Form.asRead_of_some (w := m.form) rfl]
      exact Moment.says_form hMinutes
  | zulu hMinutes hText =>
      rcases Moment.zero_of_isoText hMinutes hText with
        ⟨rfl, hZero⟩
      refine ⟨m.date.form (some m.clock.form) (some .zulu), ?_, ?_⟩
      · exact Date.text_form m.date m.clock (some .zulu)
      · rw [Form.asRead_of_some (w := m.date.form _ _) rfl]
        exact ⟨rfl, rfl, rfl, m.clock_form _, hZero⟩

/- What is written is read back, with blanks around it or not. -/
theorem ofText?_eq
    (hText : IsWrittenAs v m t)
    (hBefore : ∀ c ∈ before, Text.isBlank c = true)
    (hAfter : ∀ c ∈ after, Text.isBlank c = true) :
    Moment.ofText? (before ++ t ++ after) = some m := by
  rcases hText.exists_form with ⟨w, rfl, hSays⟩
  have hTrim : Text.trim (before ++ w.text ++ after) = w.text :=
    Text.trimBy_append hBefore w.isTight hAfter
  rw [ofText?_of_text hTrim]
  exact Form.moment?_eq_some_iff.mpr hSays

/-
  A value and what is written for it are interchangeable: the text
  is read back, is bound as a date, and renders like the value, as
  the moment in every format.
-/
theorem interchangeable
    [Machine]
    (hText : IsWrittenAs v m t)
    (hBefore : ∀ c ∈ before, Text.isBlank c = true)
    (hAfter : ∀ c ∈ after, Text.isBlank c = true) :
    Moment.ofText? (before ++ t ++ after) = some m ∧
      (BoundValue.ofValue (.text (before ++ t ++ after))).family =
        .date ∧
      ∀ spec,
        (BoundValue.ofValue v).render spec =
            (BoundValue.ofValue
              (.text (before ++ t ++ after))).render spec ∧
          (BoundValue.ofValue v).render spec =
            .ok (DateFormat.render m spec) := by
  have hRead := hText.ofText?_eq hBefore hAfter
  have hBound :
      BoundValue.ofValue (.text (before ++ t ++ after)) =
        ⟨.date, .moment m⟩ := by
    simp only [BoundValue.ofValue, hRead]
  rw [hBound]
  refine ⟨hRead, rfl, fun spec => ?_⟩
  cases hText with
  | day d => exact ⟨rfl, rfl⟩
  | moment hMinutes => exact ⟨rfl, rfl⟩
  | zulu hMinutes hText => exact ⟨rfl, rfl⟩

/- The last microsecond of a year, with the letter Z and blanks. -/
theorem interchangeable_year_end :
    ∃ m : Moment,
      m.isoText = "1999-12-31T23:59:59.999999+00:00" ∧
      Moment.ofText? " 1999-12-31T23:59:59.999999Z\n" = some m ∧
      (BoundValue.ofValue (.moment m)).render (some "MMMM D") =
        (BoundValue.ofValue
          (.text " 1999-12-31T23:59:59.999999Z\n")).render
          (some "MMMM D") := by
  have hMinutes :
      (Moment.mk ⟨1999, 12, 31, by decide⟩
        ⟨23, 59, 59, 999999, by decide⟩
        (some ⟨0, by decide⟩)).IsInMinutes := by
    intro o hOffset
    obtain rfl := Option.some.inj hOffset
    rfl
  have hText : IsWrittenAs _ _ _ :=
    .zulu hMinutes
      (by decide +kernel :
        _ = Text.ofString "1999-12-31T23:59:59.999999" ++
          Text.ofString "+00:00")
  have hBefore : ∀ c ∈ Text.ofString " ", Text.isBlank c = true := by
    decide
  have hAfter : ∀ c ∈ Text.ofString "\n", Text.isBlank c = true := by
    decide
  have hBoth := hText.interchangeable hBefore hAfter
  exact ⟨_, by decide +kernel, hBoth.1, (hBoth.2.2 _).1⟩

end IsWrittenAs

end LabelPress

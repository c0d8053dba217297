import LabelPress.Proofs.Calendar.Reading

/-
  What a read text says.

  The year, month and day of a read moment stand at fixed places
  of the text.  Its time of day and its offset are those that the
  text has, unless the text has an offset and no time: the hours
  and minutes of the offset are then taken for the time of day,
  and the moment has no offset.

  Main declarations:
    * `Iso.numberAt`
    * `Moment.says_iff_of_ofText?`
-/

namespace LabelPress

namespace Iso

------------------------------------------------------------
-- Numbers at Places
------------------------------------------------------------

/- The number that some digits of a text denote. -/
def numberAt
    (place : Nat)
    (width : Nat)
    (t : Text) :
    Nat :=
  Text.naturalOf ((t.drop place).take width)

/- A number stands behind what is as long as its place. -/
theorem numberAt_append
    {place width n : Nat}
    {before : Text}
    (hPlace : before.length = place)
    (hWidth : 0 < width)
    (hBound : n < 10 ^ width)
    (after : Text) :
    numberAt place width (before ++ (paddedDigits width n ++ after)) =
      n := by
  rw [numberAt, List.drop_left' hPlace,
    List.take_left' (Text.length_paddedDigits hWidth hBound),
    Text.naturalOf_paddedDigits]

namespace Form

variable (w : Form)
variable (rest : Text)

theorem numberAt_year :
    numberAt 0 4 (w.dateText ++ rest) = w.year := by
  have hPlace : ([] : Text).length = 0 := rfl
  rw [w.dateText_append]
  exact numberAt_append hPlace (Nat.succ_pos 3) w.year.isLt _

theorem numberAt_month :
    numberAt 5 2 (w.dateText ++ rest) = w.month := by
  have hYear := Text.length_four w.year.isLt
  have hPlace :
      (paddedDigits 4 w.year ++ Text.ofString "-").length = 5 := by
    rw [List.length_append, hYear]
    rfl
  have hText := numberAt_append hPlace Nat.two_pos w.month.isLt
    (Text.ofString "-" ++ (paddedDigits 2 w.day ++ rest))
  simpa only [Form.dateText, List.append_assoc] using hText

theorem numberAt_day :
    numberAt 8 2 (w.dateText ++ rest) = w.day := by
  have hYear := Text.length_four w.year.isLt
  have hMonth := Text.length_two w.month.isLt
  have hPlace :
      (paddedDigits 4 w.year ++ Text.ofString "-" ++
        paddedDigits 2 w.month ++ Text.ofString "-").length = 8 := by
    simp only [List.length_append, hYear, hMonth]
    rfl
  have hText := numberAt_append hPlace Nat.two_pos w.day.isLt rest
  simpa only [Form.dateText, List.append_assoc] using hText

end Form

end Iso

------------------------------------------------------------
-- Read Moments
------------------------------------------------------------

open Iso

/-
  The day of a read moment stands in the text, and its time of
  day and offset do just if there is a time or no offset.
-/
theorem Moment.says_iff_of_ofText?
    {s : Text}
    {m : Moment}
    (hRead : Moment.ofText? s = some m) :
    (m.date.year = numberAt 0 4 (Text.trim s) ∧
      m.date.month = numberAt 5 2 (Text.trim s) ∧
      m.date.day = numberAt 8 2 (Text.trim s)) ∧
    (∃ w : Form, Text.trim s = w.text) ∧
    ∀ w : Form, Text.trim s = w.text →
      w.asRead.Says m ∧
      (w.Says m ↔ w.time.isSome = true ∨ w.zone = none) := by
  have hForms : ∀ w : Form, Text.trim s = w.text →
      w.asRead.Says m := by
    intro w hText
    rw [ofText?_of_text hText] at hRead
    exact Form.moment?_eq_some_iff.mp hRead
  rcases exists_form_of_ofText? hRead with ⟨w, hText⟩
  refine ⟨?_, ⟨w, hText⟩, fun v hv =>
    ⟨hForms v hv, Form.says_iff_of_asRead (hForms v hv)⟩⟩
  have hSays := hForms w hText
  rw [w.asRead_eq] at hSays
  rw [hText, Form.text, List.append_assoc, w.numberAt_year,
    w.numberAt_month, w.numberAt_day]
  exact ⟨hSays.year, hSays.month, hSays.day⟩

/- A blank before the time, a fraction, and no colon in the offset. -/
theorem Moment.says_iff_of_ofText?_behind :
    ∃ m : Moment,
      Moment.ofText? " 2024-03-09 10:30:07.25-0130" = some m ∧
      m.date.year = 2024 ∧
      m.clock.microsecond = 250000 ∧
      m.offset.map Offset.microseconds = some (-5400000000) ∧
      (Form.mk 2024 3 9
        (some ⟨true, 10, 30, some ⟨7, some ⟨2, 25, by decide⟩⟩⟩)
        (some (.signed true false 1 30))).Says m := by
  have hRead :
      Moment.ofText? " 2024-03-09 10:30:07.25-0130" =
        some ⟨⟨2024, 3, 9, by decide⟩,
          ⟨10, 30, 7, 250000, by decide⟩,
          some ⟨-5400000000, by decide⟩⟩ := by
    decide +kernel
  refine ⟨_, hRead, rfl, rfl, rfl, ?_⟩
  have hForm := (says_iff_of_ofText? hRead).2.2
    ⟨2024, 3, 9,
      some ⟨true, 10, 30, some ⟨7, some ⟨2, 25, by decide⟩⟩⟩,
      some (.signed true false 1 30)⟩ (by decide +kernel)
  exact hForm.2.mpr (.inl rfl)

/- An offset right behind a date is taken for the time of day. -/
theorem Moment.ofText?_offset_as_time :
    Text.trim "2024-01-05+05:30" =
        (Form.mk 2024 1 5 none
          (some (.signed false true 5 30))).text ∧
      ∃ m : Moment,
        Moment.ofText? "2024-01-05+05:30" = some m ∧
        (m.clock.hour, m.clock.minute) = (5, 30) ∧
        m.offset = none ∧
        ¬ (Form.mk 2024 1 5 none
          (some (.signed false true 5 30))).Says m := by
  have hRead :
      Moment.ofText? "2024-01-05+05:30" =
        some ⟨⟨2024, 1, 5, by decide⟩, ⟨5, 30, 0, 0, by decide⟩,
          none⟩ := by
    decide +kernel
  refine ⟨by decide +kernel, _, hRead, rfl, rfl, ?_⟩
  intro hSays
  exact absurd hSays.offset (by decide)

end LabelPress

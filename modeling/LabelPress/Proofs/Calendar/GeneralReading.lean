import LabelPress.Proofs.Calendar.Reading
import LabelPress.Proofs.Double.Order

/-
  Moments read in all forms.

  Texts in the forms in which moments are read are some of those
  that the reader of all ISO 8601 forms takes.  It reads each of
  them alike, the letter Z spelled out as an offset, so that a
  moment is read exactly where both readers take the text.

  Main declarations:
    * `IsoForm.time?_text`
    * `Iso.spellZulu`
    * `Moment.toOption_ofIso`
    * `Moment.ofText?_eq_some_iff_ofIso`
-/

namespace LabelPress

namespace Iso

------------------------------------------------------------
-- Spelled Zones
------------------------------------------------------------

/- The letter Z at the end of a text spelled out as an offset. -/
def spellZulu
    (t : Text) :
    Text :=
  if t.getLast? = some (.char 'Z') then t.dropLast ++ "+00:00"
  else t

/- A zone as an offset. -/
def ZoneForm.spelled :
    ZoneForm → ZoneForm
  | zulu => signed false true ⟨0, by decide⟩ ⟨0, by decide⟩
  | z => z

/- A form with its zone as an offset. -/
def Form.spelled
    (w : Form) :
    Form :=
  { w with zone := w.zone.map ZoneForm.spelled }

theorem Form.spelled_of_ne_zulu
    {w : Form}
    (hZone : w.zone ≠ some .zulu) :
    w.spelled = w := by
  rcases w with ⟨year, month, day, time, zone⟩
  rcases zone with _ | _ | _
  · rfl
  · exact absurd rfl hZone
  · rfl

theorem spellZulu_concat
    (t : Text) :
    spellZulu (t ++ [.char 'Z']) = t ++ Text.ofString "+00:00" := by
  rw [spellZulu, if_pos List.getLast?_concat, List.dropLast_concat]

theorem Form.zone_spelled_ne_zulu
    (w : Form) :
    w.spelled.zone ≠ some .zulu := by
  rcases w with ⟨year, month, day, time, zone⟩
  rcases zone with _ | _ | _ <;> nofun

/- The text of a form is spelled out as the form is. -/
theorem spellZulu_text
    (w : Form) :
    spellZulu w.text = w.spelled.text := by
  by_cases hZone : w.zone = some .zulu
  · have hSpelled :
        w.spelled.zone = some (.signed false true 0 0) := by
      rw [Form.spelled, hZone]
      rfl
    rw [Form.text, Form.text, hZone, hSpelled]
    exact spellZulu_concat _
  · rcases Form.endsInDigit hZone with ⟨c, hLast, hDigit⟩
    rw [Form.spelled_of_ne_zulu hZone]
    refine if_neg fun hZulu => ?_
    rw [Option.mem_def, hZulu, Option.some.injEq] at hLast
    rw [← hLast] at hDigit
    exact absurd hDigit (by decide)

theorem Form.moment?_asRead_spelled
    (w : Form) :
    w.spelled.asRead.moment? = w.asRead.moment? := by
  by_cases hZone : w.zone = some .zulu
  · rcases w with ⟨year, month, day, time, zone⟩
    cases hZone
    cases time with
    | none => rfl
    | some t => rfl
  · rw [Form.spelled_of_ne_zulu hZone]

------------------------------------------------------------
-- Texts by Their Parts
------------------------------------------------------------

theorem ZoneForm.text_signed
    (negative colon : Bool)
    (hour minute : Fin 100) :
    (signed negative colon hour minute).text =
      zoneSign negative ++ (paddedDigits 2 hour ++
        (Text.ofString (if colon then ":" else "") ++
          paddedDigits 2 minute)) := by
  rw [ZoneForm.text, List.append_assoc, List.append_assoc]

/- A number starts with a digit and has another one. -/
theorem exists_two_digits
    (k : Fin 100) :
    ∃ c d : CodePoint,
      paddedDigits 2 k = [c, d] ∧ Text.isAsciiDigit c = true := by
  rcases List.length_eq_two.mp (Text.length_two k.isLt) with
    ⟨c, d, hText⟩
  have hMember : c ∈ paddedDigits 2 k := by
    rw [hText]
    exact List.mem_cons_self
  exact ⟨c, d, hText, Text.isAsciiDigit_of_mem_paddedDigits hMember⟩

end Iso

namespace IsoForm

open Iso

------------------------------------------------------------
-- Dates
------------------------------------------------------------

theorem dateNumbers?_dateText
    (w : Form) :
    dateNumbers? w.dateText =
      some ((w.year : Nat), (w.month : Nat), (w.day : Nat)) := by
  rcases exists_two_digits w.month with ⟨c, d, hMonth, hDigit⟩
  have hWeek : c ≠ .char 'W' := by
    rintro rfl
    exact absurd hDigit (by decide)
  have hText := w.dateText_append []
  rw [List.append_nil] at hText
  rw [hText, dateNumbers?]
  simp only [number?_four, Option.bind_eq_bind, Option.bind_some]
  split
  · rename_i cs hText
    rw [hMonth] at hText
    exact absurd (List.cons.inj hText).1 hWeek
  · simp only [number?_two, mark?_cons, Option.bind_some, if_true]

theorem length_dateText
    (w : Form) :
    w.dateText.length = 10 := by
  have hYear := Text.length_four w.year.isLt
  have hMonth := Text.length_two w.month.isLt
  have hDay := Text.length_two w.day.isLt
  rw [Form.dateText]
  simp only [List.length_append, hYear, hMonth, hDay]
  rfl

/- The date of a form is the date at the start of its text. -/
theorem dateLength_append
    (w : Form)
    (rest : Text) :
    dateLength (w.dateText ++ rest) = 10 := by
  rcases exists_two_digits w.month with ⟨c, d, hMonth, hDigit⟩
  have hYear := Text.length_four w.year.isLt
  have hText :
      w.dateText ++ rest =
        paddedDigits 4 w.year ++ .char '-' :: c :: d ::
          .char '-' :: (paddedDigits 2 w.day ++ rest) := by
    rw [w.dateText_append, hMonth]
    rfl
  have hLong : (w.dateText ++ rest).length ≠ 7 := by
    rw [List.length_append, length_dateText]
    omega
  have hHyphen : markAt '-' (w.dateText ++ rest) 4 = true := by
    rw [markAt, hText, List.getElem?_append_right hYear.le, hYear]
    rfl
  have hMonthMark : markAt 'W' (w.dateText ++ rest) 5 = false := by
    rw [markAt, hText, List.getElem?_append_right (by omega), hYear,
      beq_eq_false_iff_ne]
    rintro ⟨⟩
    exact absurd hDigit (by decide)
  rw [dateLength, if_neg hLong, if_pos hHyphen, hMonthMark]
  rfl

theorem toOption_dateOf
    (year month day : Nat) :
    (dateOf year month day).toOption =
      Date.ofNumbers? year month day := by
  rw [dateOf]
  split_ifs with hYear hMonth
  · have hNone : ¬ Date.Valid year month day := by
      rintro ⟨hFirst, hLast, _⟩
      omega
    exact (Date.ofNumbers?_eq_none hNone).symm
  · have hNone : ¬ Date.Valid year month day := by
      rintro ⟨_, _, hFirst, hLast, _⟩
      omega
    exact (Date.ofNumbers?_eq_none hNone).symm
  · cases Date.ofNumbers? year month day with
    | none => rfl
    | some d => rfl

------------------------------------------------------------
-- Times
------------------------------------------------------------

section Numbers

variable {colons : Bool}
variable {numbers : List Nat}
variable {left : Nat}

/- The last number of a time. -/
theorem timeFrom?_two
    (k : Fin 100) :
    timeFrom? colons numbers (paddedDigits 2 k) (left + 1) =
      some (.ofList (numbers ++ [(k : Nat)]) 0, false) := by
  have hRead := number?_two k []
  rw [List.append_nil] at hRead
  rw [timeFrom?, hRead]
  rfl

/- A number before a colon. -/
theorem timeFrom?_two_colon
    (k : Fin 100)
    {next : Text}
    (hColons : left = 2 ∨ colons = true)
    (hNext : next ≠ []) :
    timeFrom? colons numbers
        (paddedDigits 2 k ++ .char ':' :: next) (left + 1) =
      timeFrom? true (numbers ++ [(k : Nat)]) next left := by
  rcases List.exists_cons_of_ne_nil hNext with ⟨c, cs, rfl⟩
  have hMode :
      (if left = 2 then CodePoint.char ':' == CodePoint.char ':'
        else colons) = true := by
    rcases hColons with rfl | rfl
    · rfl
    · exact ite_self _
  rw [timeFrom?, number?_two]
  simp only [Option.bind_eq_bind, Option.bind_some]
  rw [hMode]
  rfl

/- A number right before another one. -/
theorem timeFrom?_two_two
    (k l : Fin 100)
    (hColons : left = 2 ∨ colons = false) :
    timeFrom? colons numbers
        (paddedDigits 2 k ++ paddedDigits 2 l) (left + 1) =
      timeFrom? false (numbers ++ [(k : Nat)]) (paddedDigits 2 l)
        left := by
  rcases exists_two_digits l with ⟨c, d, hText, hDigit⟩
  have hColon : (c == CodePoint.char ':') = false := by
    rw [beq_eq_false_iff_ne]
    rintro rfl
    exact absurd hDigit (by decide)
  have hPoint :
      ¬ (c = CodePoint.char '.' ∨ c = CodePoint.char ',') := by
    rintro (rfl | rfl)
    · exact absurd hDigit (by decide)
    · exact absurd hDigit (by decide)
  have hMode :
      (if left = 2 then c == CodePoint.char ':' else colons) =
        false := by
    rcases hColons with rfl | rfl
    · exact hColon
    · rw [hColon, ite_self]
  rw [timeFrom?, number?_two]
  simp only [Option.bind_eq_bind, Option.bind_some]
  rw [hText]
  simp only [hMode, hPoint, Bool.false_and, Bool.false_eq_true,
    if_false]

/- A number before a point. -/
theorem timeFrom?_two_point
    (k : Fin 100)
    {next : Text}
    (hNext : next ≠ []) :
    timeFrom? colons numbers
        (paddedDigits 2 k ++ .char '.' :: next) (left + 1) =
      (fraction? next).map fun (micro, more) =>
        (.ofList (numbers ++ [(k : Nat)]) micro, more) := by
  rcases List.exists_cons_of_ne_nil hNext with ⟨c, cs, rfl⟩
  have hColon :
      (CodePoint.char '.' == CodePoint.char ':') = false := rfl
  rw [timeFrom?, number?_two, Option.map_eq_bind]
  simp only [Option.bind_eq_bind, Option.bind_some, hColon,
    Bool.and_false, Bool.false_eq_true, if_false, true_or, if_true]
  rfl

end Numbers

theorem fraction?_digits
    (f : FractionForm) :
    fraction? (paddedDigits f.width f.digits) =
      some (f.micros, false) := by
  rcases f.valid with ⟨hSome, hWidth, hBound⟩
  have hLength := Text.length_paddedDigits hSome hBound
  have hRead :
      number? f.width (paddedDigits f.width f.digits) =
        some (f.digits, []) :=
    (number?_eq_some_iff hSome).mpr
      ⟨hBound, (List.append_nil _).symm⟩
  rw [fraction?, hLength, Nat.min_eq_right hWidth, hRead]
  simp only [Option.bind_eq_bind, Option.bind_some,
    f.tenfold_digits]
  rfl

/- The numbers of a time. -/
def ofClockForm
    (c : ClockForm) :
    TimeNumbers :=
  ⟨c.hour, c.minute, c.second.elim 0 fun s => s.second,
    c.second.elim 0 SecondForm.micros⟩

theorem time?_text
    (c : ClockForm) :
    time? c.text = some (ofClockForm c, false) := by
  rcases c with ⟨hour, minute, second⟩
  have hNext : ∀ (k : Fin 100) (t : Text),
      paddedDigits 2 k ++ t ≠ [] := fun k t =>
    List.append_ne_nil_of_left_ne_nil (paddedDigits_ne_nil 2 k) t
  rw [ClockForm.text_eq, time?,
    timeFrom?_two_colon hour (.inl rfl) (hNext minute _)]
  cases second with
  | none =>
      rw [Option.elim_none, List.append_nil, timeFrom?_two]
      rfl
  | some s =>
      rcases s with ⟨second, fraction⟩
      rw [Option.elim_some, SecondForm.text_eq,
        timeFrom?_two_colon minute (.inr rfl) (hNext second _)]
      cases fraction with
      | none =>
          rw [Option.elim_none, List.append_nil, timeFrom?_two]
          rfl
      | some f =>
          have hPoint :
              f.text =
                .char '.' :: paddedDigits f.width f.digits := rfl
          rw [Option.elim_some, hPoint,
            timeFrom?_two_point second (paddedDigits_ne_nil _ _),
            fraction?_digits]
          rfl

theorem toOption_clockOf
    (t : TimeNumbers) :
    (clockOf t).toOption =
      Clock.ofNumbers? t.hour t.minute t.second t.micro := by
  rw [clockOf]
  split_ifs with hHour hMinute
  · exact (Clock.ofNumbers?_eq_none (by omega)).symm
  · exact (Clock.ofNumbers?_eq_none (by omega)).symm
  · cases Clock.ofNumbers? t.hour t.minute t.second t.micro with
    | none => rfl
    | some d => rfl

------------------------------------------------------------
-- Times before Zones
------------------------------------------------------------

theorem not_beginsOffset_paddedDigits
    (width n : Nat) :
    ∀ c ∈ paddedDigits width n, beginsOffset c = false := by
  intro c hMember
  have hDigit := Text.isAsciiDigit_of_mem_paddedDigits hMember
  rw [← Bool.not_eq_true, beginsOffset_iff]
  rintro (rfl | rfl | rfl)
  · exact absurd hDigit (by decide)
  · exact absurd hDigit (by decide)
  · exact absurd hDigit (by decide)

/- No offset begins within a time. -/
theorem not_beginsOffset_text
    (form : ClockForm) :
    ∀ c ∈ form.text, beginsOffset c = false := by
  have hDigits := not_beginsOffset_paddedDigits
  have hColon :
      ∀ c ∈ Text.ofString ":", beginsOffset c = false := by
    decide
  have hPoint :
      ∀ c ∈ Text.ofString ".", beginsOffset c = false := by
    decide
  rcases form with ⟨hour, minute, second⟩
  refine List.forall_mem_append.mpr ⟨?_, ?_⟩
  · simp only [List.forall_mem_append]
    exact ⟨⟨hDigits 2 hour, hColon⟩, hDigits 2 minute⟩
  · cases second with
    | none => exact List.forall_mem_nil _
    | some s =>
        rcases s with ⟨second, fraction⟩
        refine List.forall_mem_append.mpr ⟨?_, ?_⟩
        · exact List.forall_mem_append.mpr
            ⟨hColon, hDigits 2 second⟩
        · cases fraction with
          | none => exact List.forall_mem_nil _
          | some f =>
              exact List.forall_mem_append.mpr
                ⟨hPoint, hDigits f.width f.digits⟩

section Zones

variable (c : ClockForm)
variable {zone : Text}

theorem takeWhile_text_append
    (hStops : Stops zone) :
    (c.text ++ zone).takeWhile (fun d => !beginsOffset d) =
      c.text := by
  have hTime : ∀ d ∈ c.text, (!beginsOffset d) = true := by
    intro d hMember
    rw [not_beginsOffset_text c d hMember]
    rfl
  rw [List.takeWhile_append_of_pos hTime]
  have hNone : zone.takeWhile (fun d => !beginsOffset d) = [] := by
    rcases hStops.cases with rfl | ⟨cs, rfl | rfl | rfl⟩ <;> rfl
  rw [hNone, List.append_nil]

theorem dropWhile_text_append
    (hStops : Stops zone) :
    (c.text ++ zone).dropWhile (fun d => !beginsOffset d) =
      zone := by
  have hWhole :=
    List.takeWhile_append_dropWhile (p := fun d => !beginsOffset d)
      (l := c.text ++ zone)
  rw [takeWhile_text_append c hStops] at hWhole
  exact List.append_cancel_left hWhole

end Zones

/- The time that a zone is. -/
theorem time?_zone
    (colon : Bool)
    (hour minute : Fin 100) :
    time? (paddedDigits 2 hour ++
        (Text.ofString (if colon then ":" else "") ++
          paddedDigits 2 minute)) =
      some (ofClockForm ⟨hour, minute, none⟩, false) := by
  cases colon with
  | true =>
      have hText := time?_text ⟨hour, minute, none⟩
      rw [ClockForm.text] at hText
      simpa using hText
  | false =>
      change time? (paddedDigits 2 hour ++ paddedDigits 2 minute) = _
      rw [time?, timeFrom?_two_two hour minute (.inl rfl),
        timeFrom?_two]
      rfl

/- No offset begins within a zone behind its sign. -/
theorem not_beginsOffset_zone
    (colon : Bool)
    (hour minute : Fin 100) :
    ∀ c ∈ paddedDigits 2 hour ++
        (Text.ofString (if colon then ":" else "") ++
          paddedDigits 2 minute), beginsOffset c = false := by
  have hColon :
      ∀ c ∈ Text.ofString (if colon then ":" else ""),
        beginsOffset c = false := by
    cases colon <;> decide
  simp only [List.forall_mem_append]
  exact ⟨not_beginsOffset_paddedDigits 2 hour, hColon,
    not_beginsOffset_paddedDigits 2 minute⟩

theorem toOption_offsetOf
    (negative : Bool)
    (t : TimeNumbers) :
    (offsetOf negative t).toOption =
      Offset.ofMicroseconds?
        (Double.signed negative
          (if t.hour * 3600 + t.minute * 60 + t.second = 0 then 0
            else
              (t.hour * 3600 + t.minute * 60 + t.second) *
                microsPerSecond + t.micro)) := by
  unfold offsetOf
  dsimp only
  split
  · rename_i o hOffset
    rw [hOffset]
    rfl
  · rename_i hNone
    rw [hNone]
    rfl

/- The offset that a zone is. -/
theorem toOption_offsetOf_zone
    (negative : Bool)
    (hour minute : Fin 100) :
    (offsetOf negative (ofClockForm ⟨hour, minute, none⟩)).toOption =
      Offset.ofMinutes?
        (Double.signed negative (hour * 60 + minute)) := by
  have hLength :
      (if (hour : Nat) * 3600 + minute * 60 + 0 = 0 then 0
        else
          ((hour : Nat) * 3600 + minute * 60 + 0) *
            microsPerSecond + 0) =
        ((hour : Nat) * 60 + minute) * (60 * microsPerSecond) := by
    unfold microsPerSecond
    split_ifs with hZero
    · omega
    · omega
  have hMinutes :
      Double.signed negative ((hour : Nat) * 60 + minute) *
          (60 * microsPerSecond : Nat) =
        Double.signed negative _ :=
    (Double.signed_mul negative _ _).symm
  rw [Offset.ofMinutes?, hMinutes, ← hLength, toOption_offsetOf]
  rfl

theorem toOption_bind
    {ε α β : Type}
    (result : Except ε α)
    (f : α → Except ε β) :
    (result >>= f).toOption =
      result.toOption.bind fun a => (f a).toOption := by
  cases result with
  | error e => rfl
  | ok a => rfl

/- What follows a date: one character, and a time of day. -/
def timeAfter :
    Text → Except IsoProblem (TimeNumbers × Option Offset)
  | [] => .ok ({}, none)
  | _ :: time => timeOfDay time

/- A time with nothing after it has no offset. -/
theorem timeOfDay_of_forall
    {cs : Text}
    {t : TimeNumbers}
    (hTime : time? cs = some (t, false))
    (hNone : ∀ c ∈ cs, beginsOffset c = false) :
    timeOfDay cs = .ok (t, none) := by
  have hAll : ∀ c ∈ cs, (!beginsOffset c) = true := by
    intro c hMember
    rw [hNone c hMember]
    rfl
  have hTake := List.takeWhile_eq_self_iff.mpr hAll
  have hDrop := List.dropWhile_eq_nil_iff.mpr hAll
  rw [timeOfDay, hTake, hDrop, hTime]
  rfl

/- A time before a sign and another time, which is an offset. -/
theorem toOption_timeOfDay_sign
    {cs body : Text}
    {t z : TimeNumbers}
    {more : Bool}
    {negative : Bool}
    (hTime :
      time? (cs.takeWhile fun c => !beginsOffset c) = some (t, more))
    (hZone :
      cs.dropWhile (fun c => !beginsOffset c) =
        zoneSign negative ++ body)
    (hBody : time? body = some (z, false)) :
    (timeOfDay cs).toOption =
      (offsetOf negative z).toOption.bind fun o =>
        some (t, some o) := by
  cases negative with
  | false =>
      have hPlus :
          cs.dropWhile (fun c => !beginsOffset c) =
            .char '+' :: body := hZone
      rw [timeOfDay, hTime, hPlus]
      simp only [CodePoint.char.injEq, Char.reduceEq, imp_self, hBody]
      exact toOption_bind _ _
  | true =>
      have hMinus :
          cs.dropWhile (fun c => !beginsOffset c) =
            .char '-' :: body := hZone
      rw [timeOfDay, hTime, hMinus]
      simp only [CodePoint.char.injEq, Char.reduceEq, imp_self, hBody]
      exact toOption_bind _ _

theorem toOption_timeOfDay_zone
    (c : ClockForm)
    {z : ZoneForm}
    (hZone : z ≠ .zulu) :
    (timeOfDay (c.text ++ z.text)).toOption =
      (Offset.ofMinutes? z.minutes).bind fun o =>
        some (ofClockForm c, some o) := by
  cases z with
  | zulu => exact absurd rfl hZone
  | signed negative colon hour minute =>
      have hStops :=
        (ZoneForm.signed negative colon hour minute).stops
      rw [ZoneForm.text_signed] at hStops ⊢
      have hTime := time?_text c
      rw [← takeWhile_text_append c hStops] at hTime
      rw [toOption_timeOfDay_sign hTime
          (dropWhile_text_append c hStops)
          (time?_zone colon hour minute),
        toOption_offsetOf_zone, ZoneForm.minutes]

end IsoForm

------------------------------------------------------------
-- Moments
------------------------------------------------------------

open Iso IsoForm

namespace Iso.Form

/- The numbers of the time of a form. -/
def timeNumbers
    (w : Form) :
    TimeNumbers :=
  w.time.elim {} fun t => ofClockForm t.clock

theorem ofNumbers?_timeNumbers
    (w : Form) :
    Clock.ofNumbers? w.timeNumbers.hour w.timeNumbers.minute
        w.timeNumbers.second w.timeNumbers.micro =
      w.clock? := by
  unfold timeNumbers clock?
  cases w.time with
  | none => rfl
  | some t => rfl

/- What follows the date of a form is read as in `asRead`. -/
theorem toOption_timeAfter
    {w : Form}
    (hZone : w.zone ≠ some .zulu) :
    (timeAfter (w.time.elim [] TimeForm.text ++
        w.zone.elim [] ZoneForm.text)).toOption =
      w.asRead.offset?.map fun o? => (w.asRead.timeNumbers, o?) := by
  rcases w with ⟨year, month, day, time, zone⟩
  cases time with
  | some t =>
      cases zone with
      | none =>
          rw [Option.elim_some, Option.elim_none, List.append_nil,
            TimeForm.text, timeAfter,
            timeOfDay_of_forall (time?_text t.clock)
              (not_beginsOffset_text t.clock)]
          rfl
      | some z =>
          have hOffset : z ≠ .zulu := fun hZulu =>
            hZone (congrArg some hZulu)
          rw [Option.elim_some, Option.elim_some, TimeForm.text,
            List.cons_append, timeAfter,
            toOption_timeOfDay_zone t.clock hOffset]
          change _ = ((Offset.ofMinutes? z.minutes).map some).map _
          rw [Option.map_map, Option.map_eq_bind]
          rfl
  | none =>
      cases zone with
      | none => rfl
      | some z =>
          cases z with
          | zulu => exact absurd rfl hZone
          | signed negative colon hour minute =>
              rw [Option.elim_none, Option.elim_some,
                List.nil_append, ZoneForm.text_signed]
              have hTime :=
                timeOfDay_of_forall (time?_zone colon hour minute)
                  (not_beginsOffset_zone colon hour minute)
              cases negative with
              | false => exact congrArg Except.toOption hTime
              | true => exact congrArg Except.toOption hTime

end Iso.Form

/- The moment of a text by its date and what follows it. -/
theorem Moment.ofIso_append
    (w : Form)
    (rest : Text) :
    Moment.ofIso (w.dateText ++ rest) =
      timeAfter rest >>= fun (t, o?) =>
        dateOf w.year w.month w.day >>= fun d =>
          clockOf t >>= fun c => .ok ⟨d, c, o?⟩ := by
  have hLength := length_dateText w
  rw [Moment.ofIso, dateLength_append, List.take_left' hLength,
    dateNumbers?_dateText, List.drop_left' hLength]
  cases rest with
  | nil => rfl
  | cons c cs => rfl

/-
  The reader of all forms reads a text in a form of moments, its
  zone an offset, as what the form is read as.
-/
theorem Moment.toOption_ofIso
    {w : Form}
    (hZone : w.zone ≠ some .zulu) :
    (Moment.ofIso w.text).toOption = w.asRead.moment? := by
  rw [Form.text, List.append_assoc, Moment.ofIso_append,
    toOption_bind, Form.toOption_timeAfter hZone, Form.moment?,
    w.date?_asRead]
  simp only [toOption_bind, toOption_dateOf, toOption_clockOf]
  cases w.asRead.offset? with
  | none => simp
  | some o? =>
      rw [Option.map_some, Option.bind_some]
      simp only [Form.ofNumbers?_timeNumbers]
      rfl

/-
  A moment is read where the text is in a form and the reader of
  all forms finds the moment in it, the letter Z spelled out.
-/
theorem Moment.ofText?_eq_some_iff_ofIso
    {s : Text}
    {m : Moment} :
    Moment.ofText? s = some m ↔
      (∃ w : Form, Text.trim s = w.text) ∧
        Moment.ofIso (spellZulu (Text.trim s)) = .ok m := by
  have hForm : ∀ w : Form, Text.trim s = w.text →
      (Moment.ofText? s = some m ↔
        Moment.ofIso (spellZulu (Text.trim s)) = .ok m) := by
    intro w hText
    rw [ofText?_of_text hText, hText, spellZulu_text,
      ← Form.moment?_asRead_spelled,
      ← Moment.toOption_ofIso w.zone_spelled_ne_zulu]
    cases Moment.ofIso w.spelled.text with
    | error e => exact iff_of_false nofun nofun
    | ok k =>
        rw [Except.ok.injEq]
        exact Option.some_inj
  constructor
  · intro hRead
    rcases exists_form_of_ofText? hRead with ⟨w, hText⟩
    exact ⟨⟨w, hText⟩, (hForm w hText).mp hRead⟩
  · rintro ⟨⟨w, hText⟩, hRead⟩
    exact (hForm w hText).mpr hRead

end LabelPress

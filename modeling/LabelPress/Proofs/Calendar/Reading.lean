import LabelPress.Calendar.IsoForms
import LabelPress.Proofs.Calendar.FixedDigits
import LabelPress.Proofs.Calendar.Forms

/-
  Moments read off their forms.

  A text is read as a moment only if it is written in a form, and
  in a form it is read as what the form is read as.

  Main declarations:
    * `Iso.date?_dateText`, `Iso.clock?_text`, `Iso.suffix?_text`
    * `Iso.exists_form_of_ofText?`
    * `Iso.ofText?_of_text`
-/

namespace LabelPress

namespace Iso

------------------------------------------------------------
-- Numbers and Marks
------------------------------------------------------------

theorem number?_two
    (k : Fin 100)
    (rest : Text) :
    number? 2 (paddedDigits 2 k ++ rest) = some ((k : Nat), rest) :=
  (number?_eq_some_iff (by decide)).mpr ⟨k.isLt, rfl⟩

theorem number?_four
    (k : Fin 10000)
    (rest : Text) :
    number? 4 (paddedDigits 4 k ++ rest) = some ((k : Nat), rest) :=
  (number?_eq_some_iff (by decide)).mpr ⟨k.isLt, rfl⟩

theorem exists_two_of_number?
    {n : Nat}
    {cs rest : Text}
    (hRead : number? 2 cs = some (n, rest)) :
    ∃ k : Fin 100, n = k ∧ cs = paddedDigits 2 k ++ rest := by
  rcases (number?_eq_some_iff (by decide)).mp hRead with
    ⟨hBound, hText⟩
  exact ⟨⟨n, hBound⟩, rfl, hText⟩

theorem mark?_eq_some_iff
    {c : CodePoint}
    {cs rest : Text} :
    mark? c cs = some rest ↔ cs = c :: rest := by
  cases cs with
  | nil => simp [mark?]
  | cons d cs =>
      rw [mark?, List.cons.injEq]
      split_ifs with hMark
      · simp [hMark]
      · simp [hMark]

theorem mark?_cons
    (c : CodePoint)
    (rest : Text) :
    mark? c (c :: rest) = some rest :=
  mark?_eq_some_iff.mpr rfl

------------------------------------------------------------
-- Dates
------------------------------------------------------------

/- A date by its numbers, and what stands behind it. -/
theorem Form.dateText_append
    (w : Form)
    (rest : Text) :
    w.dateText ++ rest =
      paddedDigits 4 w.year ++ .char '-' ::
        (paddedDigits 2 w.month ++ .char '-' ::
          (paddedDigits 2 w.day ++ rest)) := by
  simp [Form.dateText, Text.ofString]

theorem date?_dateText
    (w : Form)
    (rest : Text) :
    date? (w.dateText ++ rest) =
      w.date?.map fun d => (d, rest) := by
  rw [Form.dateText_append, date?, Option.map_eq_bind]
  simp only [number?_four, number?_two, mark?_cons,
    Option.bind_eq_bind, Option.bind_some]
  rfl

theorem exists_dateText_of_date?
    {cs rest : Text}
    {d : Date}
    (hRead : date? cs = some (d, rest)) :
    ∃ year : Fin 10000, ∃ month day : Fin 100,
      cs = Form.dateText ⟨year, month, day, none, none⟩ ++ rest := by
  unfold date? at hRead
  simp only [Option.bind_eq_bind, Option.bind_eq_some_iff,
    Prod.exists, mark?_eq_some_iff, Option.some.injEq,
    Prod.mk.injEq] at hRead
  rcases hRead with ⟨year, cs₁, hYear, cs₂, rfl, month, cs₃, hMonth,
    cs₄, rfl, day, cs₅, hDay, _, _, _, rfl⟩
  rcases (number?_eq_some_iff (by decide)).mp hYear with
    ⟨hBound, rfl⟩
  rcases exists_two_of_number? hMonth with ⟨mo, rfl, rfl⟩
  rcases exists_two_of_number? hDay with ⟨da, rfl, rfl⟩
  refine ⟨⟨year, hBound⟩, mo, da, ?_⟩
  rw [Form.dateText_append]

------------------------------------------------------------
-- Times
------------------------------------------------------------

/- Whether a text is over or goes on with an offset. -/
def Stops
    (t : Text) :
    Prop :=
  ∀ c ∈ t.head?, IsoForm.beginsOffset c = true

theorem beginsOffset_iff
    {c : CodePoint} :
    IsoForm.beginsOffset c = true ↔
      c = .char '+' ∨ c = .char '-' ∨ c = .char 'Z' := by
  simp [IsoForm.beginsOffset, or_assoc]

theorem Stops.cases
    {t : Text}
    (hStops : Stops t) :
    t = [] ∨ ∃ cs, t = .char '+' :: cs ∨ t = .char '-' :: cs ∨
      t = .char 'Z' :: cs := by
  cases t with
  | nil => exact .inl rfl
  | cons c cs =>
      have hFirst := beginsOffset_iff.mp (hStops c rfl)
      refine .inr ⟨cs, ?_⟩
      rcases hFirst with rfl | rfl | rfl
      · exact .inl rfl
      · exact .inr (.inl rfl)
      · exact .inr (.inr rfl)

/- The digits of a fraction count as microseconds. -/
theorem FractionForm.tenfold_digits
    (f : FractionForm) :
    tenfold f.digits (6 - f.width) = f.micros := by
  rcases f.valid with ⟨_, hWidth, _⟩
  have hTens :
      ((6 : Int) - (f.width : Int)).toNat = 6 - f.width := by
    omega
  rw [tenfold, hTens]
  rfl

theorem fraction_digits
    (f : FractionForm)
    {rest : Text}
    (hStops : Stops rest) :
    fraction (paddedDigits f.width f.digits ++ rest) =
      some (f.micros, rest) := by
  rcases f.valid with ⟨hSome, hWidth, hBound⟩
  have hLength := Text.length_paddedDigits hSome hBound
  have hDigits :
      (paddedDigits f.width f.digits ++ rest).takeWhile
          Text.isAsciiDigit =
        paddedDigits f.width f.digits := by
    rw [List.takeWhile_append_of_pos
      fun _ => Text.isAsciiDigit_of_mem_paddedDigits]
    have hNone : rest.takeWhile Text.isAsciiDigit = [] := by
      rcases hStops.cases with rfl | ⟨cs, rfl | rfl | rfl⟩ <;> rfl
    rw [hNone, List.append_nil]
  have hRead :
      number? f.width (paddedDigits f.width f.digits ++ rest) =
        some (f.digits, rest) :=
    (number?_eq_some_iff hSome).mpr ⟨hBound, rfl⟩
  unfold fraction
  dsimp only
  rw [hDigits, List.take_of_length_le (by omega), hLength,
    if_neg (paddedDigits_ne_nil _ _), hRead]
  rw [Option.map_some, f.tenfold_digits]

theorem exists_fractionForm_of_fraction
    {n : Nat}
    {cs rest : Text}
    (hRead : fraction cs = some (n, rest)) :
    ∃ f : FractionForm,
      cs = paddedDigits f.width f.digits ++ rest := by
  unfold fraction at hRead
  dsimp only at hRead
  split_ifs at hRead with hNone
  rcases Option.map_eq_some_iff.mp hRead with
    ⟨⟨k, tail⟩, hNumber, hBoth⟩
  rw [Prod.mk.injEq] at hBoth
  rcases hBoth with ⟨_, rfl⟩
  have hSome := List.length_pos_iff.mpr hNone
  have hShort :
      ((cs.takeWhile Text.isAsciiDigit).take 6).length ≤ 6 :=
    List.length_take_le 6 _
  rcases (number?_eq_some_iff hSome).mp hNumber with
    ⟨hBound, hText⟩
  exact ⟨⟨_, k, hSome, hShort, hBound⟩, hText⟩

/- A time by its numbers and marks. -/
theorem ClockForm.text_eq
    (c : ClockForm) :
    c.text =
      paddedDigits 2 c.hour ++ .char ':' ::
        (paddedDigits 2 c.minute ++
          c.second.elim [] SecondForm.text) := by
  simp [ClockForm.text, Text.ofString]

theorem SecondForm.text_eq
    (s : SecondForm) :
    s.text =
      .char ':' :: (paddedDigits 2 s.second ++
        s.fraction.elim [] FractionForm.text) := by
  simp [SecondForm.text, Text.ofString]

theorem clock?_text
    (c : ClockForm)
    {rest : Text}
    (hStops : Stops rest) :
    clock? (c.text ++ rest) =
      c.clock?.map fun k => (k, rest) := by
  rcases c with ⟨hour, minute, second⟩
  rw [ClockForm.text_eq, Option.map_eq_bind, List.append_assoc,
    List.cons_append, List.append_assoc]
  unfold clock? ClockForm.clock?
  simp only [number?_two, mark?_cons, Option.bind_eq_bind,
    Option.bind_some]
  cases second with
  | none =>
      rw [Option.elim_none, List.nil_append]
      rcases hStops.cases with rfl | ⟨cs, rfl | rfl | rfl⟩ <;> rfl
  | some s =>
      rcases s with ⟨second, fraction⟩
      rw [Option.elim_some, SecondForm.text_eq, List.cons_append,
        List.append_assoc]
      simp only [number?_two, Option.bind_some]
      cases fraction with
      | none =>
          rw [Option.elim_none, List.nil_append]
          rcases hStops.cases with
            rfl | ⟨cs, rfl | rfl | rfl⟩ <;> rfl
      | some f =>
          have hPoint :
              f.text ++ rest =
                .char '.' ::
                  (paddedDigits f.width f.digits ++ rest) := rfl
          rw [Option.elim_some, hPoint]
          simp only [fraction_digits f hStops, Option.bind_some]
          rfl

theorem exists_clockForm_of_clock?
    {k : Clock}
    {cs rest : Text}
    (hRead : clock? cs = some (k, rest)) :
    ∃ c : ClockForm, cs = c.text ++ rest := by
  unfold clock? at hRead
  simp only [Option.bind_eq_bind, Option.bind_eq_some_iff,
    Prod.exists, mark?_eq_some_iff] at hRead
  rcases hRead with ⟨hour, cs₁, hHour, cs₂, rfl, minute, cs₃,
    hMinute, hRest⟩
  rcases exists_two_of_number? hHour with ⟨h, rfl, rfl⟩
  rcases exists_two_of_number? hMinute with ⟨mi, rfl, rfl⟩
  split at hRest
  · simp only [Option.bind_eq_some_iff, Prod.exists] at hRest
    rcases hRest with ⟨second, cs₄, hSecond, hRest⟩
    rcases exists_two_of_number? hSecond with ⟨s, rfl, rfl⟩
    split at hRest
    · simp only [Option.bind_eq_some_iff, Prod.exists,
        Option.some.injEq, Prod.mk.injEq] at hRest
      rcases hRest with ⟨micro, cs₅, hFraction, _, _, _, rfl⟩
      rcases exists_fractionForm_of_fraction hFraction with
        ⟨f, rfl⟩
      refine ⟨⟨h, mi, some ⟨s, some f⟩⟩, ?_⟩
      simp [ClockForm.text, SecondForm.text, FractionForm.text,
        Text.ofString]
    · simp only [Option.bind_eq_some_iff, Option.some.injEq,
        Prod.mk.injEq] at hRest
      rcases hRest with ⟨_, _, _, rfl⟩
      refine ⟨⟨h, mi, some ⟨s, none⟩⟩, ?_⟩
      simp [ClockForm.text, SecondForm.text, Text.ofString]
  · simp only [Option.bind_eq_some_iff, Option.some.injEq,
      Prod.mk.injEq] at hRest
    rcases hRest with ⟨_, _, _, rfl⟩
    refine ⟨⟨h, mi, none⟩, ?_⟩
    simp [ClockForm.text, Text.ofString]

/- A time is behind the letter T or a blank. -/
theorem TimeForm.separator_cases
    (t : TimeForm) :
    t.separator = .char 'T' ∨ t.separator = .char ' ' := by
  unfold TimeForm.separator
  cases t.spaced with
  | false => exact .inl rfl
  | true => exact .inr rfl

------------------------------------------------------------
-- Zones
------------------------------------------------------------

namespace ZoneForm

/- Whether a zone is behind universal time. -/
def isBehind :
    ZoneForm → Bool
  | zulu => false
  | signed negative _ _ _ => negative

theorem minutes_eq
    (z : ZoneForm) :
    z.minutes =
      Double.signed z.isBehind
        (z.clock.hour * 60 + z.clock.minute) := by
  cases z with
  | zulu => rfl
  | signed negative colon hour minute => rfl

/- A zone starts with a mark, which is no separator of a time. -/
theorem exists_text_eq
    (z : ZoneForm) :
    ∃ c cs, z.text = c :: cs ∧
      IsoForm.beginsOffset c = true ∧
      ¬ (c = .char 'T' ∨ c = .char ' ') := by
  cases z with
  | zulu => exact ⟨_, _, rfl, by decide, by decide⟩
  | signed negative colon hour minute =>
      cases negative with
      | false => exact ⟨_, _, rfl, by decide, by decide⟩
      | true => exact ⟨_, _, rfl, by decide, by decide⟩

theorem stops
    (z : ZoneForm) :
    Stops z.text := by
  rcases z.exists_text_eq with ⟨c, cs, hText, hMark, _⟩
  intro d hFirst
  rw [hText] at hFirst
  obtain rfl := Option.some.inj hFirst
  exact hMark

end ZoneForm

/- Behind its sign, a zone has hours and minutes. -/
theorem suffix?_sign
    (negative : Bool)
    (cs : Text) :
    suffix? (zoneSign negative ++ cs) =
      (do
        let (hour, cs) ← number? 2 cs
        let cs :=
          match cs with
          | .char ':' :: rest => rest
          | rest => rest
        let (minute, cs) ← number? 2 cs
        if cs = [] then some (negative, hour, minute) else none) := by
  cases negative with
  | false => rfl
  | true => rfl

theorem suffix?_text
    (z : ZoneForm) :
    suffix? z.text =
      some (z.isBehind, (z.clock.hour : Nat),
        (z.clock.minute : Nat)) := by
  cases z with
  | zulu => rfl
  | signed negative colon hour minute =>
      have hMinute :
          number? 2 (paddedDigits 2 minute) =
            some ((minute : Nat), []) := by
        simpa using number?_two minute []
      rw [ZoneForm.text, List.append_assoc, List.append_assoc,
        suffix?_sign]
      simp only [number?_two, Option.bind_eq_bind,
        Option.bind_some]
      cases colon with
      | true =>
          change (number? 2 (paddedDigits 2 minute)).bind _ = _
          rw [hMinute]
          rfl
      | false =>
          change (number? 2
            (match paddedDigits 2 minute with
            | .char ':' :: rest => rest
            | rest => rest)).bind _ = _
          split
          · rename_i rest hText
            have hColon :
                CodePoint.char ':' ∈ paddedDigits 2 minute :=
              hText ▸ List.mem_cons_self
            exact absurd
              (Text.isAsciiDigit_of_mem_paddedDigits hColon)
              (by decide)
          · rw [hMinute]
            rfl

theorem exists_signed_of_suffix?
    (negative : Bool)
    {cs : Text}
    {numbers : Bool × Nat × Nat}
    (hRead : suffix? (zoneSign negative ++ cs) = some numbers) :
    ∃ z : ZoneForm, zoneSign negative ++ cs = z.text := by
  rw [suffix?_sign] at hRead
  simp only [Option.bind_eq_bind, Option.bind_eq_some_iff,
    Prod.exists] at hRead
  rcases hRead with ⟨hour, cs₁, hHour, minute, cs₂, hMinute, hEnd⟩
  split_ifs at hEnd with hNone
  rcases exists_two_of_number? hHour with ⟨h, rfl, rfl⟩
  rcases exists_two_of_number? hMinute with ⟨mi, rfl, hRest⟩
  rw [hNone, List.append_nil] at hRest
  split at hRest
  · refine ⟨.signed negative true h mi, ?_⟩
    rw [hRest]
    simp [ZoneForm.text, Text.ofString]
  · refine ⟨.signed negative false h mi, ?_⟩
    rw [hRest]
    simp [ZoneForm.text, Text.ofString]

theorem exists_zoneForm_of_suffix?
    {cs : Text}
    {numbers : Bool × Nat × Nat}
    (hRead : suffix? cs = some numbers) :
    ∃ z : ZoneForm, cs = z.text := by
  cases cs with
  | nil => cases hRead
  | cons sign cs =>
      by_cases hMinus : sign = .char '-'
      · subst hMinus
        exact exists_signed_of_suffix? true hRead
      · by_cases hPlus : sign = .char '+'
        · subst hPlus
          exact exists_signed_of_suffix? false hRead
        · unfold suffix? at hRead
          split at hRead
          · rename_i hText
            exact ⟨.zulu, hText⟩
          · rename_i hText
            rcases List.cons.inj hText with ⟨rfl, rfl⟩
            rw [if_neg hMinus, if_neg hPlus] at hRead
            cases hRead
          · cases hRead

theorem offset?_text
    (z : ZoneForm) :
    offset? z.text = Offset.ofMinutes? z.minutes := by
  unfold offset?
  rw [suffix?_text, z.minutes_eq]
  rfl

------------------------------------------------------------
-- Last Characters
------------------------------------------------------------

/- Whether a text ends in a digit. -/
def EndsInDigit
    (t : Text) :
    Prop :=
  ∃ c ∈ t.getLast?, Text.isAsciiDigit c = true

theorem EndsInDigit.append
    {t : Text}
    (hEnds : EndsInDigit t)
    (before : Text) :
    EndsInDigit (before ++ t) := by
  rcases hEnds with ⟨c, hLast, hDigit⟩
  refine ⟨c, ?_, hDigit⟩
  rw [Option.mem_def] at hLast ⊢
  rw [List.getLast?_append, hLast, Option.some_or]

theorem endsInDigit_paddedDigits
    (width n : Nat) :
    EndsInDigit (paddedDigits width n) := by
  have hSome := paddedDigits_ne_nil width n
  exact ⟨_, List.getLast?_eq_some_getLast hSome,
    Text.isAsciiDigit_of_mem_paddedDigits
      (List.getLast_mem hSome)⟩

theorem ClockForm.endsInDigit
    (c : ClockForm) :
    EndsInDigit c.text := by
  rcases c with ⟨hour, minute, second⟩
  cases second with
  | none =>
      rw [ClockForm.text, Option.elim_none, List.append_nil]
      exact (endsInDigit_paddedDigits 2 minute).append _
  | some s =>
      rcases s with ⟨second, fraction⟩
      refine EndsInDigit.append ?_ _
      cases fraction with
      | none =>
          rw [Option.elim_some, SecondForm.text, Option.elim_none,
            List.append_nil]
          exact (endsInDigit_paddedDigits 2 second).append _
      | some f =>
          exact ((endsInDigit_paddedDigits f.width f.digits).append
            _).append _

theorem ZoneForm.endsInDigit
    {z : ZoneForm}
    (hZone : z ≠ .zulu) :
    EndsInDigit z.text := by
  cases z with
  | zulu => exact absurd rfl hZone
  | signed negative colon hour minute =>
      exact (endsInDigit_paddedDigits 2 minute).append _

/- A form ends in a digit, unless it ends in the letter Z. -/
theorem Form.endsInDigit
    {w : Form}
    (hZone : w.zone ≠ some .zulu) :
    EndsInDigit w.text := by
  rcases w with ⟨year, month, day, time, zone⟩
  cases zone with
  | some z =>
      have hOffset : z ≠ .zulu := fun hZulu =>
        hZone (congrArg some hZulu)
      exact (ZoneForm.endsInDigit hOffset).append _
  | none =>
      rw [Form.text, Option.elim_none, List.append_nil]
      cases time with
      | some t =>
          exact (t.clock.endsInDigit.append [t.separator]).append _
      | none =>
          rw [Option.elim_none, List.append_nil]
          exact (endsInDigit_paddedDigits 2 day).append _

/- No blank stands at an end of a form. -/
theorem Form.isTight
    (w : Form) :
    Text.IsTight Text.isBlank w.text where
  first c hFirst := by
    have hSome := paddedDigits_ne_nil 4 w.year
    rw [Form.text, List.append_assoc, w.dateText_append,
      List.head?_append_of_ne_nil _ hSome] at hFirst
    have hDigit := Text.isAsciiDigit_of_mem_paddedDigits
      (List.mem_of_mem_head? hFirst)
    exact Text.isBlank_of_isNumeral
      (Text.isNumeral_iff.mpr (.inl hDigit))
  last c hLast := by
    by_cases hZone : w.zone = some .zulu
    · rw [Form.text, hZone] at hLast
      have hZulu : c = .char 'Z' :=
        (Option.some.inj (List.getLast?_concat.symm.trans hLast)).symm
      rw [hZulu]
      decide
    · rcases Form.endsInDigit hZone with ⟨d, hDigitLast, hDigit⟩
      obtain rfl := Option.mem_unique hDigitLast hLast
      exact Text.isBlank_of_isNumeral
        (Text.isNumeral_iff.mpr (.inl hDigit))

------------------------------------------------------------
-- Moments
------------------------------------------------------------

/- What follows a date is read as in the form that is read. -/
theorem rest?_text
    (w : Form)
    (d : Date) :
    rest? d (w.time.elim [] TimeForm.text ++
        w.zone.elim [] ZoneForm.text) =
      (do
        let clock ← w.asRead.clock?
        let offset ← w.asRead.offset?
        some ⟨d, clock, offset⟩) := by
  cases hTime : w.time with
  | none =>
      cases hZone : w.zone with
      | none =>
          rw [Form.asRead_of_none hZone, Form.clock?, Form.offset?,
            hTime, hZone]
          rfl
      | some z =>
          rcases z.exists_text_eq with ⟨c, cs, hText, _, hMark⟩
          rw [Form.asRead_of_zone hTime hZone, Option.elim_none,
            Option.elim_some, List.nil_append, hText, rest?,
            if_neg hMark, ← hText, suffix?_text]
          cases z with
          | zulu => rfl
          | signed negative colon hour minute => rfl
  | some t =>
      rw [Form.asRead_of_some hTime, Form.clock?, Form.offset?, hTime,
        Option.elim_some, Option.elim_some, TimeForm.text,
        List.cons_append, rest?, if_pos t.separator_cases]
      cases hZone : w.zone with
      | none =>
          have hStops : Stops [] := by
            intro c hNone
            cases hNone
          rw [Option.elim_none, Option.elim_none, clock?_text _ hStops]
          cases t.clock.clock? with
          | none => rfl
          | some k => rfl
      | some z =>
          rcases z.exists_text_eq with ⟨c, cs, hZoneText, _, _⟩
          have hSome : z.text ≠ [] := by
            rw [hZoneText]
            exact List.cons_ne_nil c cs
          rw [Option.elim_some, Option.elim_some,
            clock?_text _ z.stops]
          cases t.clock.clock? with
          | none => rfl
          | some k =>
              simp only [Option.map_some, Option.bind_eq_bind,
                Option.bind_some, if_neg hSome, offset?_text]
              cases Offset.ofMinutes? z.minutes with
              | none => rfl
              | some o => rfl

/- What is read behind a date is a time, a zone or both. -/
theorem exists_forms_of_rest?
    {d : Date}
    {cs : Text}
    {m : Moment}
    (hRead : rest? d cs = some m) :
    ∃ (time : Option TimeForm) (zone : Option ZoneForm),
      cs = time.elim [] TimeForm.text ++
        zone.elim [] ZoneForm.text := by
  cases cs with
  | nil => exact ⟨none, none, rfl⟩
  | cons c cs =>
      rw [rest?] at hRead
      split_ifs at hRead with hMark
      · simp only [Option.bind_eq_bind, Option.bind_eq_some_iff,
          Prod.exists] at hRead
        rcases hRead with ⟨k, rest, hClock, hRest⟩
        rcases exists_clockForm_of_clock? hClock with ⟨form, rfl⟩
        have hTime : ∃ t : TimeForm,
            c :: (form.text ++ rest) = t.text ++ rest := by
          rcases hMark with rfl | rfl
          · exact ⟨⟨false, form⟩, rfl⟩
          · exact ⟨⟨true, form⟩, rfl⟩
        rcases hTime with ⟨t, hTime⟩
        split_ifs at hRest with hNone
        · refine ⟨some t, none, ?_⟩
          rw [hTime, hNone]
          rfl
        · rcases Option.bind_eq_some_iff.mp hRest with
            ⟨o, hOffset, _⟩
          rcases Option.bind_eq_some_iff.mp hOffset with
            ⟨numbers, hSuffix, _⟩
          rcases exists_zoneForm_of_suffix? hSuffix with ⟨z, rfl⟩
          exact ⟨some t, some z, hTime⟩
      · rcases Option.bind_eq_some_iff.mp hRead with
          ⟨numbers, hSuffix, _⟩
        rcases exists_zoneForm_of_suffix? hSuffix with ⟨z, hText⟩
        exact ⟨none, some z, hText⟩

/- A text in a form is read as what the form is read as. -/
theorem ofText?_of_text
    {s : Text}
    {w : Form}
    (hText : Text.trim s = w.text) :
    Moment.ofText? s = w.asRead.moment? := by
  rw [Moment.ofText?, hText, Form.text, List.append_assoc,
    date?_dateText, Form.moment?, w.date?_asRead]
  cases w.date? with
  | none => rfl
  | some d => exact rest?_text w d

/- Only texts in forms are read. -/
theorem exists_form_of_ofText?
    {s : Text}
    {m : Moment}
    (hRead : Moment.ofText? s = some m) :
    ∃ w : Form, Text.trim s = w.text := by
  rcases Option.bind_eq_some_iff.mp hRead with
    ⟨⟨d, rest⟩, hDate, hRest⟩
  rcases exists_dateText_of_date? hDate with
    ⟨year, month, day, hText⟩
  rcases exists_forms_of_rest? hRest with ⟨time, zone, rfl⟩
  refine ⟨⟨year, month, day, time, zone⟩, ?_⟩
  rw [hText, Form.text, List.append_assoc]
  rfl

end Iso

end LabelPress

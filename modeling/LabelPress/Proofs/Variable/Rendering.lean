import LabelPress.Proofs.Label.Schema
import LabelPress.Proofs.Outcome
import LabelPress.Proofs.Value.Showing
import LabelPress.Variable.Resolution

/-
  Faults of renderings.

  A value may be one that cannot be shown, and a format can ask
  for more characters than can be held.  There is no other reason
  for the rendering of a proper value to fail.  A text fails at
  the first width that it cannot be filled up to.  A number fails
  where a directive that no other one comes before asks for too
  many places or too wide a field; counts beyond what can be asked
  for are passed over.

  Main declarations:
    * `Fault.IsOverlong`, `Directive.AsksTooMuch`
    * `Directive.CannotFill`, `NumberFormat.Overfills`
    * `TextFormat.applyAll_eq_error_iff`
    * `NumberFormat.applyFirst_eq_error_iff`
    * `BoundValue.IsProper`, `BoundValue.FailsIn`
    * `BoundValue.FailsIn.cause`
    * `BoundValue.render_eq_error_iff`
-/

namespace LabelPress

open Outcome

/- Whether a fault is a width or a text beyond what can be held. -/
def Fault.IsOverlong
    (f : Fault) :
    Prop :=
  f = .widthTooLarge ∨ f = .textTooLong

------------------------------------------------------------
-- Directives
------------------------------------------------------------

namespace Directive

/- Whether a directive has a name and a number. -/
def Asks
    (name : Text)
    (directive : Text)
    (n : Nat) :
    Prop :=
  isNamed name directive = true ∧ argument? directive = some n

/-
  Whether a directive asks for a width that no text can be filled
  up to, or for more places than a number can be printed with.
-/
inductive AsksTooMuch
    [Machine]
    (directive : Text) :
    Prop where
  | width
      {n : Nat}
      (hAsks : Asks "pad" directive n)
      (hLong : min Machine.width maxWidth < n)
  | places
      {n : Nat}
      (hAsks : Asks "decimal" directive n)
      (hLong : Machine.places < n)

theorem isNamed_iff
    {name directive : Text} :
    isNamed name directive = true ↔
      name ++ Text.ofString ":" <+: directive :=
  List.isPrefixOf_iff_prefix

/- Why a text of a length cannot be filled up to a width. -/
inductive CannotFill
    [Machine]
    (width length : Nat) :
    Fault → Prop where
  | tooWide
      (hWidest : maxWidth < width) :
      CannotFill width length .widthTooLarge
  | tooLong
      (hLong : Machine.width < width)
      (hWidth : width ≤ maxWidth)
      (hLonger : length < width) :
      CannotFill width length .textTooLong

variable {width length : Nat}
variable {f : Fault}

theorem CannotFill.isOverlong
    [Machine]
    (hCannot : CannotFill width length f) :
    f.IsOverlong := by
  cases hCannot with
  | tooWide => exact .inl rfl
  | tooLong => exact .inr rfl

theorem CannotFill.min_lt
    [Machine]
    (hCannot : CannotFill width length f) :
    min Machine.width maxWidth < width := by
  cases hCannot with
  | tooWide hWidest => exact min_lt_of_right_lt hWidest
  | tooLong hLong => exact min_lt_of_left_lt hLong

theorem fill_eq_error_iff
    [Machine]
    {c : CodePoint}
    {s : Text} :
    fill width c s = .error f ↔ CannotFill width s.length f := by
  constructor
  · intro hFault
    unfold fill at hFault
    split_ifs at hFault with hWidest hLong
    · obtain rfl := Except.error.inj hFault
      exact .tooWide hWidest
    · obtain rfl := Except.error.inj hFault
      exact .tooLong hLong.2 (Nat.le_of_not_lt hWidest) hLong.1
  · intro hCannot
    unfold fill
    cases hCannot with
    | tooWide hWidest => rw [if_pos hWidest]
    | tooLong hLong hWidth hLonger =>
        rw [if_neg (Nat.not_lt_of_le hWidth),
          if_pos ⟨hLonger, hLong⟩]

end Directive

------------------------------------------------------------
-- Texts
------------------------------------------------------------

namespace TextFormat

variable [Machine]
variable {s : Text}
variable {f : Fault}

theorem apply_pad
    {directive : Text}
    {width : Nat}
    (hAsks : Directive.Asks "pad" directive width) :
    apply directive s = padded width s := by
  rcases hAsks with ⟨hNamed, hWidth⟩
  rcases Directive.isNamed_iff.mp hNamed with ⟨rest, rfl⟩
  unfold apply
  rw [hNamed, hWidth]
  simp [Text.ofString, Directive.isNamed]

/- Of all directives the one that pads is the only one to fail. -/
theorem apply_eq_error_iff
    {directive : Text} :
    apply directive s = .error f ↔
      ∃ n, Directive.Asks "pad" directive n ∧
        Directive.CannotFill n s.length f := by
  constructor
  · intro hFault
    unfold apply at hFault
    split_ifs at hFault with hUpper hLower hTitle hTrim hTruncate
      hPad
    · cases hArgument : Directive.argument? directive with
      | none => rw [hArgument] at hFault; cases hFault
      | some length => rw [hArgument] at hFault; cases hFault
    · cases hArgument : Directive.argument? directive with
      | none => rw [hArgument] at hFault; cases hFault
      | some width =>
          rw [hArgument] at hFault
          have hFill := map_eq_error_iff.mp hFault
          exact ⟨width, ⟨hPad, hArgument⟩,
            Directive.fill_eq_error_iff.mp hFill⟩
  · rintro ⟨n, hAsks, hCannot⟩
    rw [apply_pad hAsks]
    exact map_eq_error_iff.mpr
      (Directive.fill_eq_error_iff.mpr hCannot)

/- Directives fail at one that fails behind those before it. -/
theorem applyAll_eq_error_iff
    {directives : List Text} :
    applyAll s directives = .error f ↔
      ∃ before directive after t,
        directives = before ++ directive :: after ∧
        applyAll s before = .ok t ∧
        apply directive t = .error f := by
  induction directives generalizing s with
  | nil => exact iff_of_false nofun (by simp)
  | cons first rest ih =>
      rw [applyAll, bind_eq_error_iff]
      constructor
      · rintro (hFirst | ⟨t, hFirst, hRest⟩)
        · exact ⟨[], first, rest, s, rfl, rfl, hFirst⟩
        · rcases ih.mp hRest with
            ⟨before, directive, after, u, rfl, hBefore, hHere⟩
          refine ⟨first :: before, directive, after, u, rfl, ?_,
            hHere⟩
          rw [applyAll, hFirst, ok_bind, hBefore]
      · rintro ⟨before, directive, after, u, hSplit, hBefore,
          hHere⟩
        cases before with
        | nil =>
            obtain ⟨rfl, rfl⟩ := List.cons.inj hSplit
            obtain rfl : s = u := Except.ok.inj hBefore
            exact .inl hHere
        | cons d before =>
            obtain ⟨rfl, rfl⟩ := List.cons.inj hSplit
            rw [applyAll] at hBefore
            rcases bind_eq_ok_iff.mp hBefore with
              ⟨t, hFirst, hLater⟩
            exact .inr ⟨t, hFirst, ih.mpr
              ⟨before, directive, after, u, rfl, hLater, hHere⟩⟩

end TextFormat

------------------------------------------------------------
-- Numbers
------------------------------------------------------------

namespace NumberFormat

variable {v : Value}
variable {f : Fault}
variable [Machine]

/- Only what does not let the next directive decide is a fault. -/
theorem attempt_eq_error_iff
    {directive : Text}
    {r : Except Fault Text} :
    (attempt directive v r).result = .error f ↔
      r = .error f ∧ letsPass f = false := by
  cases r with
  | ok s => exact iff_of_false nofun nofun
  | error g =>
      rw [attempt]
      split_ifs with hPass
      · rw [Outcome.result_bind, Outcome.result_noteShown]
        refine iff_of_false nofun ?_
        rintro ⟨hSame, hStays⟩
        obtain rfl := Except.error.inj hSame
        rw [hPass] at hStays
        cases hStays
      · rw [Bool.not_eq_true] at hPass
        constructor
        · intro hSame
          obtain rfl := Except.error.inj hSame
          exact ⟨rfl, hPass⟩
        · rintro ⟨hSame, _⟩
          obtain rfl := Except.error.inj hSame
          rfl

/- A number that is no double lets the next directive decide. -/
omit [Machine] in
theorem letsPass_of_toDouble
    (hNumber : v.IsNumber)
    (hFault : v.toDouble = .error f) :
    letsPass f = true := by
  cases hNumber with
  | double x => cases hFault
  | whole n =>
      simp only [Value.toDouble, Value.doubleOfInt] at hFault
      cases hDouble : Double.ofInt? n with
      | some x => rw [hDouble] at hFault; cases hFault
      | none =>
          rw [hDouble] at hFault
          obtain rfl := Except.error.inj hFault
          rfl

/-
  Whether a directive asks for more digits of a number than can
  be held: decimal places of a finite number, or a width.
-/
inductive Overfills
    (v : Value)
    (directive : Text) :
    Prop where
  | places
      {n : Nat}
      {x : Double}
      (hAsks : Directive.Asks "decimal" directive n)
      (hLong : Machine.places < n)
      (hPlaces : n ≤ Directive.maxPlaces)
      (hNumber : v.toDouble = .ok x)
      (hFinite : x.isFinite = true)
  | width
      {n : Nat}
      (hAsks : Directive.Asks "pad" directive n)
      (hShown : v.checkShown .numeral = .ok ())
      (hLong : Machine.width < n)
      (hWidth : n ≤ Directive.maxWidth)
      (hLonger : (plain v).length < n)

theorem Overfills.asksTooMuch
    {directive : Text}
    (hOverfills : Overfills v directive) :
    Directive.AsksTooMuch directive := by
  cases hOverfills with
  | places hAsks hLong => exact .places hAsks hLong
  | width hAsks _ hLong =>
      exact .width hAsks (min_lt_of_left_lt hLong)

theorem perform?_decimal
    {directive : Text}
    {places : Nat}
    (hAsks : Directive.Asks "decimal" directive places) :
    perform? directive v =
      attempt directive v (v.toDouble.bind (decimals places)) := by
  rw [perform?, if_pos hAsks.1, hAsks.2]

theorem perform?_pad
    {directive : Text}
    {width : Nat}
    (hAsks : Directive.Asks "pad" directive width) :
    perform? directive v =
      attempt directive v
        ((unformatted v).bind (padded width)) := by
  rcases hAsks with ⟨hNamed, hWidth⟩
  rcases Directive.isNamed_iff.mp hNamed with ⟨rest, rfl⟩
  unfold perform?
  rw [hNamed, hWidth]
  simp [Text.ofString, Directive.isNamed]

/- A number cannot be shown at most for its many digits. -/
theorem letsPass_of_checkShown
    {site : Site}
    (hNumber : v.IsNumber)
    (hFault : v.checkShown site = .error f) :
    letsPass f = true := by
  cases hNumber with
  | double x => cases hFault
  | whole n =>
      have hNumeral : Value.checkNumeral n = .error f := hFault
      unfold Value.checkNumeral at hNumeral
      split_ifs at hNumeral with hLong
      obtain rfl := Except.error.inj hNumeral
      rfl

theorem unformatted_of_shown
    (hShown : v.checkShown .numeral = .ok ()) :
    unformatted v = .ok (plain v) := by
  rw [unformatted, hShown]
  rfl

theorem padded_unformatted_eq_error_iff
    {width : Nat} :
    (unformatted v).bind (padded width) = .error f ↔
      v.checkShown .numeral = .error f ∨
        v.checkShown .numeral = .ok () ∧
          Directive.CannotFill width (plain v).length f := by
  change
    ((v.checkShown .numeral >>= fun _ => .ok (plain v)) >>=
      padded width) = _ ↔ _
  cases v.checkShown .numeral with
  | error g => simp
  | ok _ =>
      simp only [Outcome.ok_bind, padded, map_eq_error_iff,
        Directive.fill_eq_error_iff, reduceCtorEq, true_and,
        false_or]

theorem decimals_eq_error_iff
    {places : Nat}
    {x : Double}
    (hStays : letsPass f = false) :
    decimals places x = .error f ↔
      f = .textTooLong ∧ Machine.places < places ∧
        places ≤ Directive.maxPlaces ∧ x.isFinite = true := by
  constructor
  · intro hFault
    unfold decimals at hFault
    split_ifs at hFault with hMany hLong
    · obtain rfl := Except.error.inj hFault
      cases hStays
    · exact ⟨(Except.error.inj hFault).symm, hLong.2,
        Nat.le_of_not_lt hMany, hLong.1⟩
  · rintro ⟨rfl, hLong, hPlaces, hFinite⟩
    rw [decimals, if_neg (Nat.not_lt_of_le hPlaces),
      if_pos ⟨hFinite, hLong⟩]

/- A directive fails for a number when it asks for too much. -/
theorem perform?_eq_error_iff
    (hNumber : v.IsNumber)
    {directive : Text} :
    (perform? directive v).result = .error f ↔
      f = .textTooLong ∧ Overfills v directive := by
  -- an integer that is no double is passed over
  have hRead : letsPass f = false → v.toDouble ≠ .error f := by
    intro hStays hFault
    rw [letsPass_of_toDouble hNumber hFault] at hStays
    cases hStays
  constructor
  · intro hFault
    unfold perform? at hFault
    split_ifs at hFault with hDecimal hCurrency hPercent hPad
    · cases hArgument : Directive.argument? directive with
      | none => rw [hArgument] at hFault; cases hFault
      | some places =>
          rw [hArgument] at hFault
          rcases attempt_eq_error_iff.mp hFault with
            ⟨hBind, hStays⟩
          rcases bind_eq_error_iff.mp hBind with
            hDouble | ⟨x, hDouble, hDecimals⟩
          · exact absurd hDouble (hRead hStays)
          · rcases (decimals_eq_error_iff hStays).mp hDecimals with
              ⟨rfl, hLong, hPlaces, hFinite⟩
            exact ⟨rfl, .places ⟨hDecimal, hArgument⟩ hLong
              hPlaces hDouble hFinite⟩
    · rcases attempt_eq_error_iff.mp hFault with ⟨hMap, hStays⟩
      exact absurd (map_eq_error_iff.mp hMap) (hRead hStays)
    · rcases attempt_eq_error_iff.mp hFault with ⟨hMap, hStays⟩
      exact absurd (map_eq_error_iff.mp hMap) (hRead hStays)
    · cases hArgument : Directive.argument? directive with
      | none => rw [hArgument] at hFault; cases hFault
      | some width =>
          rw [hArgument] at hFault
          rcases attempt_eq_error_iff.mp hFault with
            ⟨hBind, hStays⟩
          rcases padded_unformatted_eq_error_iff.mp hBind with
            hHidden | ⟨hShown, hCannot⟩
          · rw [letsPass_of_checkShown hNumber hHidden] at hStays
            cases hStays
          · cases hCannot with
            | tooWide => cases hStays
            | tooLong hLong hWidth hLonger =>
                exact ⟨rfl, .width ⟨hPad, hArgument⟩ hShown hLong
                  hWidth hLonger⟩
    · cases hFault
  · rintro ⟨rfl, hOverfills⟩
    cases hOverfills with
    | places hAsks hLong hPlaces hDouble hFinite =>
        rw [perform?_decimal hAsks, attempt_eq_error_iff]
        refine ⟨bind_eq_error_iff.mpr (.inr ⟨_, hDouble, ?_⟩), rfl⟩
        exact (decimals_eq_error_iff rfl).mpr
          ⟨rfl, hLong, hPlaces, hFinite⟩
    | width hAsks hShown hLong hWidth hLonger =>
        rw [perform?_pad hAsks, attempt_eq_error_iff]
        exact ⟨padded_unformatted_eq_error_iff.mpr
          (.inr ⟨hShown, .tooLong hLong hWidth hLonger⟩), rfl⟩

/-
  Directives fail at one that those before it do not apply to, or
  behind them all where the number cannot be shown.
-/
theorem applyFirst_eq_error_iff
    {directives : List Text} :
    (applyFirst v directives).result = .error f ↔
      (∃ before directive after,
        directives = before ++ directive :: after ∧
        (∀ d ∈ before, (perform? d v).result = .ok none) ∧
        (perform? directive v).result = .error f) ∨
      (∀ d ∈ directives, (perform? d v).result = .ok none) ∧
        v.checkShown .numeral = .error f := by
  induction directives with
  | nil =>
      change
        (v.checkShown .numeral >>= fun _ => .ok (plain v)) = _ ↔ _
      cases v.checkShown .numeral with
      | error g => simp
      | ok _ => simp
  | cons first rest ih =>
      rw [applyFirst, Outcome.result_bind, bind_eq_error_iff]
      constructor
      · rintro (hFirst | ⟨s?, hFirst, hRest⟩)
        · exact .inl ⟨[], first, rest, rfl, List.forall_mem_nil _,
            hFirst⟩
        · cases s? with
          | some s => cases hRest
          | none =>
              rcases ih.mp hRest with
                ⟨before, directive, after, rfl, hBefore, hHere⟩ |
                ⟨hLater, hHidden⟩
              · exact .inl ⟨first :: before, directive, after, rfl,
                  List.forall_mem_cons.mpr ⟨hFirst, hBefore⟩,
                  hHere⟩
              · exact .inr ⟨List.forall_mem_cons.mpr
                  ⟨hFirst, hLater⟩, hHidden⟩
      · rintro (⟨before, directive, after, hSplit, hBefore, hHere⟩ |
          ⟨hAll, hHidden⟩)
        · cases before with
          | nil =>
              obtain ⟨rfl, rfl⟩ := List.cons.inj hSplit
              exact .inl hHere
          | cons d before =>
              obtain ⟨rfl, rfl⟩ := List.cons.inj hSplit
              rcases List.forall_mem_cons.mp hBefore with
                ⟨hFirst, hLater⟩
              exact .inr ⟨none, hFirst, ih.mpr
                (.inl ⟨before, directive, after, rfl, hLater,
                  hHere⟩)⟩
        · rcases List.forall_mem_cons.mp hAll with
            ⟨hFirst, hLater⟩
          exact .inr ⟨none, hFirst, ih.mpr
            (.inr ⟨hLater, hHidden⟩)⟩

end NumberFormat

------------------------------------------------------------
-- Bound Values
------------------------------------------------------------

/- Whether a value is a record. -/
def Value.isRecord :
    Value → Bool
  | .record .. => true
  | _ => false

/- The directives of a format, none where there is no format. -/
def Directive.inFormat
    (format : Option Text) :
    List Text :=
  format.elim [] split

namespace BoundValue

/- Whether a value is one that its family is made for. -/
inductive IsProper :
    BoundValue → Prop where
  | day
      (d : Date) :
      IsProper ⟨.date, .date d⟩
  | moment
      (m : Moment) :
      IsProper ⟨.date, .moment m⟩
  | number
      {v : Value}
      (hNumber : v.IsNumber) :
      IsProper ⟨.number, v⟩
  | boolean
      (v : Value) :
      IsProper ⟨.boolean, v⟩
  | string
      (v : Value) :
      IsProper ⟨.string, v⟩

/- What is no record is tagged properly. -/
theorem isProper_ofValue
    {v : Value}
    (hPlain : v.isRecord = false) :
    (ofValue v).IsProper := by
  cases v with
  | bool b => exact .boolean _
  | date d => exact .day d
  | moment m => exact .moment m
  | int n => exact .number (.whole n)
  | double x => exact .number (.double x)
  | record kind fields => cases hPlain
  | text s =>
      simp only [ofValue]
      cases Moment.ofText? s with
      | some m => exact .moment m
      | none => exact .string _
  | _ => exact .string _

variable [Machine]

/-
  Whether a value fails at one of some directives: a text that
  the ones before it leave, or a number that they are no good for.
-/
def Overfills
    (b : BoundValue)
    (directives : List Text)
    (f : Fault) :
    Prop :=
  ∃ before directive after,
    directives = before ++ directive :: after ∧
      match b.family with
      | .string =>
          b.value.checkShown .rendering = .ok () ∧
          ∃ s n, TextFormat.applyAll b.value.toText before = .ok s ∧
            Directive.Asks "pad" directive n ∧
            Directive.CannotFill n s.length f
      | .number =>
          (∀ d ∈ before,
            (NumberFormat.perform? d b.value).result = .ok none) ∧
          f = .textTooLong ∧
          NumberFormat.Overfills b.value directive
      | _ => False

/-
  Whether a value cannot be shown where it has to be: a text in
  any case, and a number that none of the directives is good for.
-/
def IsHidden
    (b : BoundValue)
    (directives : List Text)
    (f : Fault) :
    Prop :=
  match b.family with
  | .string => b.value.checkShown .rendering = .error f
  | .number =>
      (∀ d ∈ directives,
        (NumberFormat.perform? d b.value).result = .ok none) ∧
      b.value.checkShown .numeral = .error f
  | _ => False

/- Why a value cannot be rendered in a format. -/
def FailsIn
    (b : BoundValue)
    (format : Option Text)
    (f : Fault) :
    Prop :=
  b.IsHidden (Directive.inFormat format) f ∨
    b.Overfills (Directive.inFormat format) f

/-
  A value that cannot be rendered cannot be shown, or some
  directive asks for too much.
-/
theorem FailsIn.cause
    {b : BoundValue}
    {format : Option Text}
    {f : Fault}
    (hFails : b.FailsIn format f) :
    (f.IsOfShowing ∧
        ∃ site, b.value.checkShown site = .error f) ∨
      f.IsOverlong ∧
        ∃ directive ∈ Directive.inFormat format,
          Directive.AsksTooMuch directive := by
  rcases b with ⟨family, v⟩
  rcases hFails with hHidden |
    ⟨before, directive, after, hSplit, hHere⟩
  · have hShown (site : Site) (hFault : v.checkShown site = .error f) :
        f.IsOfShowing ∧ ∃ site, v.checkShown site = .error f :=
      ⟨v.checkShown_failsOnly site f hFault, site, hFault⟩
    cases family with
    | string => exact .inl (hShown _ hHidden)
    | number => exact .inl (hShown _ hHidden.2)
    | date => cases hHidden
    | boolean => cases hHidden
  · have hMember : directive ∈ Directive.inFormat format := by
      rw [hSplit]
      exact List.mem_append_right before List.mem_cons_self
    cases family with
    | string =>
        rcases hHere with ⟨_, s, n, _, hAsks, hCannot⟩
        exact .inr ⟨hCannot.isOverlong, directive, hMember,
          .width hAsks hCannot.min_lt⟩
    | number =>
        rcases hHere with ⟨_, rfl, hNumber⟩
        exact .inr ⟨.inr rfl, directive, hMember,
          hNumber.asksTooMuch⟩
    | date => cases hHere
    | boolean => cases hHere

/- No format, and an empty one, have no directive that applies. -/
theorem renderText_eq
    (v : Value)
    (format : Option Text) :
    renderText v format =
      (v.checkShown .rendering >>= fun _ =>
        TextFormat.applyAll v.toText
          (Directive.inFormat format)) := by
  unfold renderText
  cases format with
  | none => rfl
  | some spec =>
      dsimp only
      split_ifs with hEmpty
      · rw [hEmpty]
        rfl
      · rfl

theorem result_format
    (v : Value)
    (format : Option Text) :
    (NumberFormat.format v format).result =
      (NumberFormat.applyFirst v
        (Directive.inFormat format)).result := by
  unfold NumberFormat.format
  cases format with
  | none => rfl
  | some spec =>
      dsimp only
      split_ifs with hEmpty
      · rw [hEmpty]
        rfl
      · rfl

/-
  The rendering of a proper value fails exactly where the value
  cannot be shown or its format asks for more than can be held.
-/
theorem render_eq_error_iff
    {b : BoundValue}
    {format : Option Text}
    {f : Fault}
    (hProper : b.IsProper) :
    (b.render format).result = .error f ↔ b.FailsIn format f := by
  have hNever :
      ∀ {b : BoundValue}, b.family = .date ∨ b.family = .boolean →
        ¬ b.FailsIn format f := by
    rintro ⟨family, v⟩ (rfl | rfl) (hHidden | ⟨_, _, _, _, hHere⟩)
    · exact hHidden
    · exact hHere
    · exact hHidden
    · exact hHere
  cases hProper with
  | day d => exact iff_of_false nofun (hNever (.inl rfl))
  | moment m => exact iff_of_false nofun (hNever (.inl rfl))
  | boolean v => exact iff_of_false nofun (hNever (.inr rfl))
  | @number v hNumber =>
      change (NumberFormat.format v format).result = _ ↔ _
      rw [result_format, NumberFormat.applyFirst_eq_error_iff,
        or_comm]
      simp only [NumberFormat.perform?_eq_error_iff hNumber]
      rfl
  | string v =>
      change renderText v format = _ ↔ _
      rw [renderText_eq]
      simp only [bind_eq_error_iff, TextFormat.applyAll_eq_error_iff,
        TextFormat.apply_eq_error_iff]
      refine or_congr Iff.rfl ?_
      constructor
      · rintro ⟨_, hShown, before, directive, after, t, hSplit,
          hBefore, n, hAsks, hCannot⟩
        exact ⟨before, directive, after, hSplit, hShown, t, n,
          hBefore, hAsks, hCannot⟩
      · rintro ⟨before, directive, after, hSplit, hShown, t, n,
          hBefore, hAsks, hCannot⟩
        exact ⟨(), hShown, before, directive, after, t, hSplit,
          hBefore, n, hAsks, hCannot⟩

end BoundValue

end LabelPress

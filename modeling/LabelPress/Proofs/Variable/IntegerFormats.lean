import LabelPress.Proofs.Double.WholeNumbers
import LabelPress.Proofs.Text.ReadIntegers
import LabelPress.Proofs.Variable.Directives

/-
  Integers in formats.

  A directive with a name and a number is a format of its own.
  An integer that is filled up with zeros has the width that is
  asked for, or its own length if that is larger.  The zeros stand
  in front of a sign, so that the padded numeral of a negative
  integer is no numeral any more; all others are read back.  With
  decimal places, an integer is printed as the double nearest to
  it, and without them if there is no such double.

  Main declarations:
    * `Directive.asking`, `Directive.asks_asking`
    * `NumberFormat.format_asking`
    * `NumberFormat.format_zeros_read_back`
    * `NumberFormat.format_whole_places`
-/

namespace LabelPress

------------------------------------------------------------
-- Directives with a Number
------------------------------------------------------------

namespace Directive

/- A directive of a name that asks for a number. -/
def asking
    (name : Text)
    (n : Nat) :
    Text :=
  name ++ ":" ++ toString n

/- Whether a name can stand in a directive. -/
structure IsPlainName
    (name : Text) :
    Prop where
  noBlank : ∀ c ∈ name, Text.isBlank c = false
  noComma : CodePoint.char ',' ∉ name
  noColon : CodePoint.char ':' ∉ name

instance
    (name : Text) :
    Decidable (IsPlainName name) :=
  decidable_of_iff
    ((∀ c ∈ name, Text.isBlank c = false) ∧
      CodePoint.char ',' ∉ name ∧ CodePoint.char ':' ∉ name)
    ⟨fun ⟨hBlank, hComma, hColon⟩ => ⟨hBlank, hComma, hColon⟩,
      fun ⟨hBlank, hComma, hColon⟩ => ⟨hBlank, hComma, hColon⟩⟩

variable {name : Text}
variable {n : Nat}

theorem mem_asking_iff
    {c : CodePoint} :
    c ∈ asking name n ↔
      c ∈ name ∨ c = .char ':' ∨
        c ∈ Text.ofString (toString (n : Int)) := by
  have hColon : Text.ofString ":" = [CodePoint.char ':'] := rfl
  rw [asking, hColon, List.mem_append, List.mem_append,
    List.mem_singleton, or_assoc]
  exact Iff.rfl

/- It is the only directive of its format. -/
theorem split_asking
    (hName : IsPlainName name) :
    split (asking name n) = [asking name n] := by
  have hComma : CodePoint.char ',' ∉ asking name n := by
    rw [mem_asking_iff, not_or, not_or]
    exact ⟨hName.noComma, by decide, Text.notMem_numeral rfl⟩
  have hTight : Text.IsTight Text.isBlank (asking name n) := by
    apply Text.isTight_of_forall
    intro c hMember
    rcases mem_asking_iff.mp hMember with hOwn | rfl | hNumeral
    · exact hName.noBlank c hOwn
    · decide
    · exact Text.isBlank_of_isNumeral
        (Text.isNumeral_of_mem_numeral hNumeral)
  rw [split_of_notMem hComma, Text.trim,
    Text.trimBy_of_isTight hTight]

/- It asks for its number, which is not too long to be read. -/
theorem asks_asking
    (hName : IsPlainName name)
    (hNumber : n ≤ maxWidth) :
    Asks name (asking name n) n := by
  have hTight :
      Text.IsTight Text.isBlank
        (Text.ofString (toString (n : Int))) :=
    Text.isTight_of_forall fun c hMember =>
      Text.isBlank_of_isNumeral
        (Text.isNumeral_of_mem_numeral hMember)
  have hShort :
      (Text.ofString (toString (n : Int))).countP
          Text.isAsciiDigit ≤ Text.maxIntegerDigits := by
    have hBound : n < 10 ^ Text.maxIntegerDigits := by
      have hPower : 10 ^ 19 ≤ 10 ^ Text.maxIntegerDigits :=
        Nat.pow_le_pow_right (by decide) (by decide)
      have hWidest : maxWidth < 10 ^ 19 := by decide
      omega
    have hDigits :
        Text.ofString (toString (n : Int)) = Text.digits 10 n := by
      rw [Text.numeral_eq, if_neg (by omega), Int.natAbs_natCast]
    have hLength :
        (Text.digits 10 n).length ≤ Text.maxIntegerDigits := by
      rw [Text.digits, List.length_map]
      exact (Nat.length_toDigits_le_iff (by decide)
        (by decide)).mpr hBound
    rw [hDigits]
    exact Nat.le_trans List.countP_le_length hLength
  refine (asks_iff hName.noColon).mpr
    ⟨Text.ofString (toString (n : Int)), rfl, ?_⟩
  rw [Text.trim, Text.trimBy_of_isTight hTight,
    Text.integer?_numeral, if_neg (Nat.not_lt_of_le hShort)]

end Directive

namespace NumberFormat

variable {v : Value}
variable {name : Text}
variable {n : Nat}

/- A number in a format of one directive is what that one gives. -/
theorem format_asking
    [Machine]
    (hName : Directive.IsPlainName name) :
    (format v (some (Directive.asking name n))).result =
      (perform? (Directive.asking name n) v).result >>=
        fun s? => s?.elim (unformatted v) .ok := by
  rw [BoundValue.result_format, Directive.inFormat,
    Option.elim_some, Directive.split_asking hName, applyFirst,
    Outcome.result_bind]
  cases (perform? (Directive.asking name n) v).result with
  | error f => rfl
  | ok s? =>
      cases s? with
      | none => rfl
      | some s => rfl

------------------------------------------------------------
-- Zeros in Front
------------------------------------------------------------

theorem padded_of_fills
    [Machine]
    {s : Text}
    (hFills : ∀ f, ¬ Directive.CannotFill n s.length f) :
    padded n s = .ok (Text.run '0' (n - s.length) ++ s) := by
  cases hFill : Directive.fill n '0' s with
  | error f =>
      exact absurd (Directive.fill_eq_error_iff.mp hFill) (hFills f)
  | ok zeros =>
      have hZeros : zeros = Text.run '0' (n - s.length) := by
        unfold Directive.fill at hFill
        split_ifs at hFill
        exact (Except.ok.inj hFill).symm
      rw [padded, hFill, hZeros]
      rfl

theorem format_pad
    [Machine]
    (hShown : v.checkShown .numeral = .ok ())
    (hFills : ∀ f,
      ¬ Directive.CannotFill n (plain v).length f) :
    (format v (some (Directive.asking "pad" n))).result =
      .ok (Text.run '0' (n - (plain v).length) ++ plain v) := by
  have hWidth : n ≤ Directive.maxWidth := by
    by_contra hWide
    exact hFills _ (.tooWide (Nat.lt_of_not_le hWide))
  rw [format_asking (by decide),
    perform?_pad (Directive.asks_asking (by decide) hWidth),
    unformatted_of_shown hShown]
  change
    ((attempt _ v (padded n (plain v))).result >>= _) = _
  rw [padded_of_fills hFills]
  rfl

/- A fault that lets the next directive decide leaves none here. -/
theorem format_asking_of_passed
    [Machine]
    {f : Fault}
    {r : Except Fault Text}
    (hName : Directive.IsPlainName name)
    (hTried :
      perform? (Directive.asking name n) v =
        attempt (Directive.asking name n) v r)
    (hFault : r = .error f)
    (hPass : letsPass f = true) :
    (format v (some (Directive.asking name n))).result =
      unformatted v := by
  rw [format_asking hName, hTried,
    attempt_eq_none_iff.mpr ⟨f, hFault, hPass⟩]
  rfl

/- An integer with too many digits is printed in no width. -/
theorem format_pad_too_long
    [Machine]
    {v : Int}
    (hLong : 10 ^ Text.maxIntegerDigits ≤ v.natAbs)
    (hWidth : n ≤ Directive.maxWidth) :
    (format (.int v) (some (Directive.asking "pad" n))).result =
      .error (.numeralTooLong Text.maxIntegerDigits) := by
  have hHidden :
      (Value.int v).checkShown .numeral =
        .error (.numeralTooLong Text.maxIntegerDigits) :=
    Value.checkNumeral_eq_error hLong
  have hNone :
      unformatted (.int v) =
        .error (.numeralTooLong Text.maxIntegerDigits) := by
    rw [unformatted, hHidden]
    rfl
  rw [format_asking_of_passed (by decide)
    (perform?_pad (Directive.asks_asking (by decide) hWidth))
    (padded_unformatted_eq_error_iff.mpr (.inl hHidden)) rfl, hNone]

/-
  An integer in a width that can be filled is as long as it is
  asked to be, or as its numeral.  It is read back exactly when it
  has no sign behind zeros and no more digits than can be read.
  One with too many digits to be shown is not printed.
-/
theorem format_zeros_read_back
    [Machine]
    {v : Int}
    {width : Nat}
    (hFills : ∀ f, ¬ Directive.CannotFill width
      (Text.ofString (toString v)).length f) :
    (v.natAbs < 10 ^ Text.maxIntegerDigits →
      ∃ s,
        (format (.int v)
            (some (Directive.asking "pad" width))).result = .ok s ∧
          s.length =
            max width (Text.ofString (toString v)).length ∧
          Text.integer? s =
            if (0 ≤ v ∨
                  width ≤ (Text.ofString (toString v)).length) ∧
                s.countP Text.isAsciiDigit ≤ Text.maxIntegerDigits
              then some v
            else none) ∧
      (10 ^ Text.maxIntegerDigits ≤ v.natAbs →
        (format (.int v)
            (some (Directive.asking "pad" width))).result =
          .error (.numeralTooLong Text.maxIntegerDigits)) := by
  have hWidth : width ≤ Directive.maxWidth := by
    by_contra hWide
    exact hFills _ (.tooWide (Nat.lt_of_not_le hWide))
  refine ⟨fun hDigits => ?_, fun hLong =>
    format_pad_too_long hLong hWidth⟩
  have hFormat :=
    format_pad (v := .int v)
      (Value.checkNumeral_eq_ok_iff.mpr hDigits) hFills
  have hPlain : plain (.int v) = Text.ofString (toString v) := rfl
  rw [hPlain] at hFormat
  refine ⟨_, hFormat, ?_, ?_⟩
  · rw [List.length_append, Text.run, List.length_replicate]
    omega
  · simp only [Text.integer?_zeros_numeral, Nat.sub_eq_zero_iff_le]

/- A natural is padded to a width and read back. -/
theorem format_zeros_read_back_short :
    (∀ f, ¬ Directive.CannotFill 5
        (Text.ofString (toString (42 : Int))).length f) ∧
      (format (.int 42) (some "pad:5")).result = .ok "00042" ∧
      Text.integer? "00042" = some 42 := by
  have hFills : ∀ f, ¬ Directive.CannotFill 5
      (Text.ofString (toString (42 : Int))).length f := by
    intro f hCannot
    exact absurd hCannot.min_lt (by decide)
  have hDigits :
      (42 : Int).natAbs < 10 ^ Text.maxIntegerDigits :=
    Nat.lt_of_lt_of_le (by decide : 42 < 10 ^ 2)
      (Nat.pow_le_pow_right (by decide) (by decide))
  rcases (format_zeros_read_back hFills).1 hDigits with
    ⟨s, hFormat, _, hRead⟩
  have hText : s = Text.ofString "00042" :=
    Except.ok.inj (hFormat.symm.trans rfl)
  rw [hText] at hRead
  exact ⟨hFills, rfl, hRead⟩

/- The zeros of a negative integer stand in front of its sign. -/
theorem format_zeros_before_sign :
    (format (.int (-5)) (some "pad:4")).result = .ok "00-5" ∧
      Text.integer? "00-5" = none :=
  ⟨rfl, rfl⟩

------------------------------------------------------------
-- Decimal Places
------------------------------------------------------------

theorem format_decimal
    [Machine]
    {x : Double}
    (hNumber : v.toDouble = .ok x)
    (hMost : n ≤ Directive.maxPlaces)
    (hPlaces : n ≤ Machine.places) :
    (format v (some (Directive.asking "decimal" n))).result =
      .ok (x.fixed n) := by
  have hWidth : n ≤ Directive.maxWidth :=
    Nat.le_trans hMost (by decide)
  have hHeld : decimals n x = .ok (x.fixed n) := by
    rw [decimals, if_neg (Nat.not_lt_of_le hMost),
      if_neg fun hLong => Nat.not_lt_of_le hPlaces hLong.2]
  have hBoth : v.toDouble.bind (decimals n) = .ok (x.fixed n) := by
    rw [hNumber]
    exact hHeld
  rw [format_asking (by decide),
    perform?_decimal (Directive.asks_asking (by decide) hWidth),
    hBoth]
  rfl

/- More places than can be held leave no text. -/
theorem format_decimal_too_long
    [Machine]
    {x : Double}
    (hNumber : v.toDouble = .ok x)
    (hFinite : x.isFinite = true)
    (hMost : n ≤ Directive.maxPlaces)
    (hLong : Machine.places < n) :
    (format v (some (Directive.asking "decimal" n))).result =
      .error .textTooLong := by
  have hWidth : n ≤ Directive.maxWidth :=
    Nat.le_trans hMost (by decide)
  have hFault :
      v.toDouble.bind (decimals n) = .error .textTooLong := by
    rw [hNumber]
    exact (decimals_eq_error_iff rfl).mpr
      ⟨rfl, hLong, hMost, hFinite⟩
  rw [format_asking (by decide),
    perform?_decimal (Directive.asks_asking (by decide) hWidth),
    attempt_eq_error_iff.mpr ⟨hFault, rfl⟩]
  rfl

/- An integer beyond the doubles is printed plainly. -/
theorem format_decimal_beyond
    [Machine]
    {v : Int}
    (hBeyond : Double.ofInt? v = none)
    (hDigits : v.natAbs < 10 ^ Text.maxIntegerDigits)
    (hMost : n ≤ Directive.maxPlaces) :
    (format (.int v)
        (some (Directive.asking "decimal" n))).result =
      .ok (Text.ofString (toString v)) := by
  have hWidth : n ≤ Directive.maxWidth :=
    Nat.le_trans hMost (by decide)
  have hFault :
      (Value.int v).toDouble.bind (decimals n) =
        .error .integerTooLarge := by
    rw [Value.toDouble, Value.doubleOfInt, hBeyond]
    rfl
  rw [format_asking_of_passed (by decide)
    (perform?_decimal (Directive.asks_asking (by decide) hWidth))
    hFault rfl]
  exact unformatted_of_shown
    (Value.checkNumeral_eq_ok_iff.mpr hDigits)

/-
  An integer with decimal places is the double nearest to it and
  zeros.  Up to 53 bits, and in general as a multiple of the
  distance between doubles, it is printed exactly.  Beyond the
  doubles it has no decimal places, if it can be shown at all.
  There is no text with more places than can be held.
-/
theorem format_whole_places
    [Machine]
    (v : Int)
    {places : Nat}
    (hMost : places ≤ Directive.maxPlaces) :
    (places ≤ Machine.places →
        (v.natAbs ≤ 2 ^ 53 →
            (format (.int v)
                (some (Directive.asking "decimal" places))).result =
              .ok (Text.ofString (toString v) ++
                Double.zeroPlaces places)) ∧
          (v.natAbs < Double.integerBound →
            ∃ w, Double.IsNearestWhole v w ∧
              (w = v ↔ Double.spacing v.natAbs ∣ v.natAbs) ∧
              (format (.int v)
                  (some
                    (Directive.asking "decimal" places))).result =
                .ok (Text.ofString (toString w) ++
                  Double.zeroPlaces places))) ∧
      (Machine.places < places →
        v.natAbs < Double.integerBound →
          (format (.int v)
              (some (Directive.asking "decimal" places))).result =
            .error .textTooLong) ∧
      (Double.integerBound ≤ v.natAbs →
        v.natAbs < 10 ^ Text.maxIntegerDigits →
          (format (.int v)
              (some (Directive.asking "decimal" places))).result =
            .ok (Text.ofString (toString v))) := by
  refine ⟨fun hPlaces => ?_, fun hLong hRange => ?_,
    fun hBeyond hDigits => ?_⟩
  · have hNearest :
        v.natAbs < Double.integerBound →
          ∃ w, Double.IsNearestWhole v w ∧
            (w = v ↔ Double.spacing v.natAbs ∣ v.natAbs) ∧
            (format (.int v)
                (some (Directive.asking "decimal" places))).result =
              .ok (Text.ofString (toString w) ++
                Double.zeroPlaces places) := by
      intro hRange
      rcases Double.exists_fixed_ofInt? hRange with
        ⟨x, w, hRead, hWhole, hFixed⟩
      refine ⟨w, hWhole, hWhole.eq_iff, ?_⟩
      rw [format_decimal (Value.toDouble_int hRead) hMost hPlaces,
        hFixed]
    refine ⟨fun hSmall => ?_, hNearest⟩
    have hRange : v.natAbs < Double.integerBound :=
      Nat.lt_of_le_of_lt hSmall (by decide +kernel)
    rcases hNearest hRange with ⟨w, _, hExact, hFormat⟩
    rw [hFormat, hExact.mpr (Double.spacing_dvd_of_le hSmall)]
  · rcases Double.exists_ofInt? hRange with
      ⟨m, e, hCanonical, hRead, _⟩
    exact format_decimal_too_long (Value.toDouble_int hRead) rfl
      hMost hLong
  · refine format_decimal_beyond ?_ hDigits hMost
    cases hRead : Double.ofInt? v with
    | none => rfl
    | some x =>
        have hRange := Double.exists_ofInt?_iff.mp ⟨x, hRead⟩
        exact absurd hRange (Nat.not_lt_of_le hBeyond)

/- An integer of few bits is printed exactly. -/
theorem format_whole_places_few :
    2 ≤ Directive.maxPlaces ∧ 2 ≤ Machine.places ∧
      (format (.int (-3)) (some "decimal:2")).result =
        .ok "-3.00" := by
  have hMost : 2 ≤ Directive.maxPlaces := by decide
  have hPlaces : 2 ≤ Machine.places := by decide
  exact ⟨hMost, hPlaces,
    ((format_whole_places (-3) hMost).1 hPlaces).1 (by decide)⟩

/- An integer of 54 bits is printed as another one. -/
theorem format_whole_places_rounded :
    (format (.int 9007199254740993) (some "decimal:2")).result =
        .ok "9007199254740992.00" ∧
      (format (.int 9007199254740993) (some "decimal:2")).result ≠
        .ok (Text.ofString (toString (9007199254740993 : Int)) ++
          Double.zeroPlaces 2) := by
  have hRounded :
      (format (.int 9007199254740993)
          (some "decimal:2")).result =
        .ok "9007199254740992.00" := by
    decide +kernel
  refine ⟨hRounded, ?_⟩
  rw [hRounded]
  decide +kernel

end NumberFormat

end LabelPress

import LabelPress.Proofs.Text.ReadNumbers
import Mathlib.Data.List.DropRight

/-
  Integers read as they are written.

  Blanks around a text that neither starts nor ends with one are
  dropped, and nothing else is.  A text of digits and signs is
  read as it stands: no character of it is a blank, and none is
  taken for another one.  So the numeral of an integer is read
  back, unless it has more digits than a numeral may have.

  Main declarations:
    * `Text.IsTight`, `Text.trimBy_append`
    * `Text.integer?_of_isNumeral`
    * `Text.integer?_numeral`, `Text.integer?_zeros_numeral`
-/

namespace LabelPress

namespace Text

------------------------------------------------------------
-- Blanks at the Ends
------------------------------------------------------------

/- Whether neither end of a text is of a class. -/
structure IsTight
    (drop : CodePoint → Bool)
    (t : Text) :
    Prop where
  first : ∀ c ∈ t.head?, drop c = false
  last : ∀ c ∈ t.getLast?, drop c = false

section Ends

variable {drop : CodePoint → Bool}
variable {before t after : Text}

theorem dropWhile_append_of_head
    (hBefore : ∀ c ∈ before, drop c = true)
    (hFirst : ∀ c ∈ t.head?, drop c = false) :
    (before ++ t).dropWhile drop = t := by
  rw [List.dropWhile_append_of_pos hBefore]
  cases t with
  | nil => rfl
  | cons c cs =>
      have hKept : ¬ drop c = true :=
        Bool.not_eq_true _ ▸ hFirst c rfl
      exact List.dropWhile_cons_of_neg hKept

/- Just what is around a tight text is dropped. -/
theorem trimBy_append
    (hBefore : ∀ c ∈ before, drop c = true)
    (hTight : IsTight drop t)
    (hAfter : ∀ c ∈ after, drop c = true) :
    trimBy drop (before ++ t ++ after) = t := by
  cases t with
  | nil =>
      have hAll : ∀ c ∈ before ++ after, drop c = true := by
        intro c hMember
        exact (List.mem_append.mp hMember).elim (hBefore c)
          (hAfter c)
      have hNone : (before ++ after).dropWhile drop = [] :=
        List.dropWhile_eq_nil_iff.mpr hAll
      rw [trimBy, List.append_nil, hNone]
      rfl
  | cons c cs =>
      have hFront :
          (before ++ (c :: cs ++ after)).dropWhile drop =
            c :: cs ++ after :=
        dropWhile_append_of_head hBefore hTight.first
      have hBack :
          (after.reverse ++ (c :: cs).reverse).dropWhile drop =
            (c :: cs).reverse := by
        apply dropWhile_append_of_head
        · intro d hMember
          exact hAfter d (List.mem_reverse.mp hMember)
        · rw [List.head?_reverse]
          exact hTight.last
      rw [trimBy, List.append_assoc, hFront, List.reverse_append,
        hBack, List.reverse_reverse]

theorem trimBy_of_isTight
    (hTight : IsTight drop t) :
    trimBy drop t = t := by
  have hNone : ∀ c ∈ ([] : Text), drop c = true := by
    intro c hMember
    cases hMember
  simpa using trimBy_append hNone hTight hNone

theorem isTight_of_forall
    (hNone : ∀ c ∈ t, drop c = false) :
    IsTight drop t where
  first c hFirst := hNone c (List.mem_of_mem_head? hFirst)
  last c hLast := hNone c (List.mem_of_mem_getLast? hLast)

end Ends

------------------------------------------------------------
-- Characters of Numerals
------------------------------------------------------------

section Characters

variable {c : CodePoint}

theorem isAsciiDigit_iff :
    isAsciiDigit c = true ↔ 48 ≤ c.toNat ∧ c.toNat ≤ 57 := by
  rw [isAsciiDigit, Bool.and_eq_true, decide_eq_true_eq,
    decide_eq_true_eq]
  exact Iff.rfl

/- The ASCII digits are the first of the decimal digits. -/
theorem isDecimalDigit_of_isAsciiDigit
    (hDigit : isAsciiDigit c = true) :
    isDecimalDigit c = true := by
  have hBounds := isAsciiDigit_iff.mp hDigit
  have hFirst :
      rangeOf? decimalDigitRanges c.toNat = some (0x30, 0x39) := by
    rw [rangeOf?, decimalDigitRanges, List.find?_cons_of_pos]
    simpa using hBounds
  rw [isDecimalDigit, digitValue?, hFirst]
  rfl

theorem isNumeral_iff :
    c.isNumeral = true ↔ isAsciiDigit c = true ∨ c = .char '-' := by
  rw [CodePoint.isNumeral, Bool.or_eq_true, beq_iff_eq]
  exact Iff.rfl

/- A code point is that of its number. -/
theorem ofNat_toNat
    (c : CodePoint) :
    CodePoint.ofNat c.toNat = c := by
  cases c with
  | half offset =>
      have hBack :
          CodePoint.firstHalf + offset.val - CodePoint.firstHalf =
            offset.val :=
        Nat.add_sub_cancel_left _ _
      have hHalf :
          CodePoint.firstHalf + offset.val -
                CodePoint.firstHalf < 0x800 ∧
            CodePoint.firstHalf ≤
              CodePoint.firstHalf + offset.val :=
        ⟨hBack.symm ▸ offset.isLt, Nat.le_add_right _ _⟩
      rw [CodePoint.toNat, CodePoint.ofNat, dif_pos hHalf]
      exact congrArg CodePoint.half (Fin.ext hBack)
  | char c =>
      have hValid : c.toNat < 0xD800 ∨ 0xDFFF < c.toNat :=
        c.valid.imp id And.left
      have hApart :
          ¬ (c.toNat - CodePoint.firstHalf < 0x800 ∧
            CodePoint.firstHalf ≤ c.toNat) := by
        rw [CodePoint.firstHalf]
        omega
      rw [CodePoint.toNat, CodePoint.ofNat, dif_neg hApart,
        Char.ofNat_toNat]

/- A code point of a range is one of as many as the range has. -/
theorem exists_of_range
    {first count : Nat}
    (hLow : first ≤ c.toNat)
    (hHigh : c.toNat < first + count) :
    ∃ k : Fin count, c = CodePoint.ofNat (first + k) := by
  refine ⟨⟨c.toNat - first, by omega⟩, ?_⟩
  simp only [Nat.add_sub_cancel' hLow, ofNat_toNat]

/- There are ten digits. -/
theorem exists_digit
    (hDigit : isAsciiDigit c = true) :
    ∃ k : Fin 10, c = CodePoint.ofNat (48 + k) := by
  rcases isAsciiDigit_iff.mp hDigit with ⟨hLow, hHigh⟩
  exact exists_of_range hLow (by omega)

theorem asciiDigitValue_lt
    (hDigit : isAsciiDigit c = true) :
    asciiDigitValue c < 10 := by
  have hRange := isAsciiDigit_iff.mp hDigit
  have hZero : Char.toNat '0' = 48 := rfl
  rw [asciiDigitValue, hZero]
  omega

/- A digit is known by its value. -/
theorem eq_of_asciiDigitValue_eq
    {d : CodePoint}
    (hc : isAsciiDigit c = true)
    (hd : isAsciiDigit d = true)
    (hSame : asciiDigitValue c = asciiDigitValue d) :
    c = d := by
  have hValue :
      ∀ k : Fin 10,
        asciiDigitValue (CodePoint.ofNat (48 + k)) = k := by
    decide
  rcases exists_digit hc with ⟨k, hk⟩
  rcases exists_digit hd with ⟨l, hl⟩
  rw [hk, hl, hValue, hValue] at hSame
  rw [hk, hl, hSame]

/- No blank stands in a numeral. -/
theorem isBlank_of_isNumeral
    (hNumeral : c.isNumeral = true) :
    isBlank c = false := by
  have hNumber : 45 ≤ c.toNat ∧ c.toNat ≤ 57 := by
    rcases isNumeral_iff.mp hNumeral with hDigit | rfl
    · have hRange := isAsciiDigit_iff.mp hDigit
      omega
    · decide
  simp only [isBlank, isWhiteSpace, inRanges, whiteSpaceRanges,
    isSeparator, List.any_cons, List.any_nil, Bool.or_eq_false_iff,
    Bool.and_eq_false_iff, decide_eq_false_iff_not, and_true]
  and_intros <;> omega

theorem isWhiteSpace_of_isNumeral
    (hNumeral : c.isNumeral = true) :
    isWhiteSpace c = false := by
  have hBlank := isBlank_of_isNumeral hNumeral
  rw [isBlank, Bool.or_eq_false_iff] at hBlank
  exact hBlank.1

/- A digit stands for itself, and a sign is no digit. -/
theorem asciiDigit_of_isNumeral
    (hNumeral : c.isNumeral = true) :
    asciiDigit c = c := by
  have hEach :
      ∀ k : Fin 10, asciiDigit (CodePoint.ofNat (48 + k)) =
        CodePoint.ofNat (48 + k) := by
    decide
  rcases isNumeral_iff.mp hNumeral with hDigit | rfl
  · rcases exists_digit hDigit with ⟨k, hSame⟩
    rw [hSame]
    exact hEach k
  · decide +kernel

end Characters

theorem dropUnderscores_of_notMem
    {t : Text}
    (hNone : CodePoint.char '_' ∉ t)
    (afterDigit : Bool) :
    dropUnderscores afterDigit t = some t := by
  induction t generalizing afterDigit with
  | nil => rfl
  | cons c cs ih =>
      rw [List.mem_cons, not_or] at hNone
      have hOther : ¬ c = .char '_' := Ne.symm hNone.1
      rw [dropUnderscores.eq_4 afterDigit c cs
        (fun _ _ hSame _ => hOther hSame)
        (fun hSame _ => hOther hSame), ih hNone.2,
        Option.map_some]

------------------------------------------------------------
-- Integers
------------------------------------------------------------

section Integers

variable {t : Text}

theorem numeralChars_of_isNumeral
    (hNumeral : ∀ c ∈ t, c.isNumeral = true) :
    numeralChars t = t := by
  have hTight : IsTight isWhiteSpace t :=
    isTight_of_forall fun c hMember =>
      isWhiteSpace_of_isNumeral (hNumeral c hMember)
  have hSame : t.map asciiDigit = t.map id :=
    List.map_congr_left fun c hMember =>
      asciiDigit_of_isNumeral (hNumeral c hMember)
  rw [numeralChars, trimBy_of_isTight hTight, hSame, List.map_id]

theorem splitSign_snd_subset
    (t : Text) :
    (splitSign t).2 ⊆ t := by
  unfold splitSign
  split
  · exact List.subset_cons_self _ _
  · exact List.subset_cons_self _ _
  · exact List.Subset.refl _

/- Digits and signs are read as they stand, up to a limit. -/
theorem integer?_of_isNumeral
    (hNumeral : ∀ c ∈ t, c.isNumeral = true) :
    integer? t =
      if maxIntegerDigits < (splitSign t).2.length then none
      else ofNumeral? t := by
  have hNone : CodePoint.char '_' ∉ (splitSign t).2 := by
    intro hMember
    exact absurd (hNumeral _ (splitSign_snd_subset t hMember))
      (by decide)
  rw [integer?, numeralChars_of_isNumeral hNumeral]
  simp only [dropUnderscores_of_notMem hNone, Option.bind_eq_bind,
    Option.bind_some]
  rw [ofNumeral?]
  dsimp only
  split_ifs with hPlain hLong
  · rfl
  · rfl
  · rfl
  · rfl

/- What starts with a digit has no sign. -/
theorem splitSign_of_digit
    {c : CodePoint}
    (hDigit : isAsciiDigit c = true)
    (cs : Text) :
    splitSign (c :: cs) = (false, c :: cs) := by
  have hMinus : c ≠ .char '-' := by
    rintro rfl
    exact absurd hDigit (by decide)
  have hPlus : c ≠ .char '+' := by
    rintro rfl
    exact absurd hDigit (by decide)
  rw [splitSign.eq_3 _
    (fun _ hSame => hMinus (List.cons.inj hSame).1)
    (fun _ hSame => hPlus (List.cons.inj hSame).1)]

/- Digits alone are a natural. -/
theorem integer?_of_digits
    (hSome : t ≠ [])
    (hDigits : ∀ c ∈ t, isAsciiDigit c = true) :
    integer? t =
      if maxIntegerDigits < t.length then none
      else some (naturalOf t : Int) := by
  have hNumeral : ∀ c ∈ t, c.isNumeral = true := by
    intro c hMember
    exact isNumeral_iff.mpr (.inl (hDigits c hMember))
  have hPlain : ¬ (t = [] ∨ ¬ t.all isAsciiDigit = true) := by
    rw [not_or, not_not]
    exact ⟨hSome, List.all_eq_true.mpr hDigits⟩
  have hSign : splitSign t = (false, t) := by
    cases t with
    | nil => rfl
    | cons c cs =>
        exact splitSign_of_digit (hDigits c List.mem_cons_self) cs
  rw [integer?_of_isNumeral hNumeral, ofNumeral?, hSign]
  dsimp only
  rw [if_neg hPlain, Double.signed, if_neg Bool.false_ne_true]

/- A sign behind a digit is no part of a numeral. -/
theorem integer?_of_inner_sign
    {c : CodePoint}
    (hNumeral : ∀ d ∈ c :: t, d.isNumeral = true)
    (hDigit : isAsciiDigit c = true)
    (hSign : CodePoint.char '-' ∈ t) :
    integer? (c :: t) = none := by
  have hOther :
      c :: t = [] ∨ ¬ (c :: t).all isAsciiDigit = true := by
    refine .inr fun hAll => ?_
    have hMinus := List.all_eq_true.mp hAll _
      (List.mem_cons_of_mem c hSign)
    exact absurd hMinus (by decide)
  rw [integer?_of_isNumeral hNumeral, ofNumeral?,
    splitSign_of_digit hDigit]
  dsimp only
  rw [if_pos hOther, ite_self]

/- A numeral is read as its integer unless it is too long. -/
theorem integer?_numeral
    (n : Int) :
    integer? (ofString (toString n)) =
      if maxIntegerDigits <
          (ofString (toString n)).countP isAsciiDigit then none
      else some n := by
  have hCount : ∀ k,
      (digits 10 k).countP isAsciiDigit = (digits 10 k).length :=
    fun k => List.countP_eq_length.mpr
      fun _ => isAsciiDigit_of_mem_digits
  have hDigits :
      (splitSign (ofString (toString n))).2.length =
        (ofString (toString n)).countP isAsciiDigit := by
    rw [numeral_eq]
    split_ifs with hNegative
    · have hMinus : ¬ isAsciiDigit (.char '-') = true := by decide
      rw [List.countP_cons_of_neg hMinus, hCount]
      rfl
    · rw [splitSign_digits, hCount]
  rw [integer?_of_isNumeral fun c => isNumeral_of_mem_numeral,
    hDigits, ofNumeral?_numeral]

/-
  Behind zeros the numeral of a natural is read as the same
  natural.  A sign can only stand in front.
-/
theorem integer?_zeros_numeral
    (k : Nat)
    (n : Int) :
    integer? (run '0' k ++ ofString (toString n)) =
      if (0 ≤ n ∨ k = 0) ∧
          (run '0' k ++ ofString (toString n)).countP
            isAsciiDigit ≤ maxIntegerDigits then some n
      else none := by
  have hZeros : ∀ c ∈ run '0' k, isAsciiDigit c = true := by
    intro c hMember
    rw [List.eq_of_mem_replicate hMember]
    decide
  cases k with
  | zero =>
      rw [run, List.replicate_zero, List.nil_append,
        integer?_numeral]
      simp only [or_true, true_and, ← Nat.not_lt, ite_not]
  | succ k =>
      by_cases hNegative : n < 0
      · have hRefused : ¬ (0 ≤ n ∨ k + 1 = 0) := by omega
        rw [if_neg fun hBoth => hRefused hBoth.1]
        have hNumeral :
            ∀ c ∈ run '0' (k + 1) ++ ofString (toString n),
              c.isNumeral = true := by
          intro c hMember
          rcases List.mem_append.mp hMember with hZero | hOwn
          · exact isNumeral_iff.mpr (.inl (hZeros c hZero))
          · exact isNumeral_of_mem_numeral hOwn
        have hSign :
            CodePoint.char '-' ∈
              run '0' k ++ ofString (toString n) := by
          rw [numeral_eq, if_pos hNegative]
          exact List.mem_append_right _ List.mem_cons_self
        exact integer?_of_inner_sign hNumeral (by decide) hSign
      · have hNatural : 0 ≤ n := Int.not_lt.mp hNegative
        have hDigits :
            ∀ c ∈ run '0' (k + 1) ++ digits 10 n.natAbs,
              isAsciiDigit c = true := by
          intro c hMember
          rcases List.mem_append.mp hMember with hZero | hOwn
          · exact hZeros c hZero
          · exact isAsciiDigit_of_mem_digits hOwn
        have hValue :
            (naturalOf
                (run '0' (k + 1) ++ digits 10 n.natAbs) : Int) =
              n := by
          rw [naturalOf_run_append, naturalOf_digits]
          omega
        rw [numeral_eq, if_neg hNegative,
          integer?_of_digits (by simp [digits_ne_nil]) hDigits,
          hValue, List.countP_eq_length.mpr hDigits]
        simp only [hNatural, true_or, true_and, ← Nat.not_lt,
          ite_not]

end Integers

end Text

end LabelPress

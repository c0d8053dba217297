import LabelPress.Proofs.Printer.Repetition
import LabelPress.Proofs.Text.ReadIntegers
import LabelPress.Proofs.Text.Words

/-
  Two lines of which one ends and the next begins in an origin.

  When no other origin is near, the two lines are collapsed
  exactly if the second begins with the origin that the first one
  ends in.  That origin does not have to end where it is repeated:
  it is also the start of every origin with the same first number
  whose second number goes on.  Such a pair loses its first
  origin, and every other pair is left as it is.

  Main declarations:
    * `Optimizer.originAt`
    * `Optimizer.IsPair`
    * `Optimizer.IsPair.shorten_eq`
    * `Optimizer.IsPair.infix_shorten_iff`
    * `optimizeCode_keeps_origins_iff`
-/

namespace LabelPress

namespace Optimizer

------------------------------------------------------------
-- Places of Origins
------------------------------------------------------------

section Places

variable {p q r before after rest : Text}

theorem IsOrigin.infix_of_suffix
    (hOrigin : IsOrigin p)
    (hEnds : p ++ r <:+ after) :
    Text.ofString "^FO" <:+: after := by
  have hStarts : Text.ofString "^FO" <+: p ++ r :=
    hOrigin.starts.trans (List.prefix_append p r)
  exact hStarts.isInfix.trans hEnds.isInfix

/- In front of the first mark of an origin no origin begins. -/
theorem IsOrigin.suffix_of_before
    (hFirst : IsOrigin p)
    (hSecond : IsOrigin q)
    (hBefore : ¬ Text.ofString "^FO" <:+: before)
    (hEnds : p ++ r <:+ before ++ (q ++ rest)) :
    p ++ r <:+ q ++ rest := by
  induction before with
  | nil => exact hEnds
  | cons c before ih =>
      have hLess : ¬ Text.ofString "^FO" <:+: before :=
        fun hInside => hBefore
          (hInside.trans (List.suffix_cons c before).isInfix)
      rw [List.cons_append] at hEnds
      rcases List.suffix_cons_iff.mp hEnds with hHere | hLater
      · -- a mark would begin before the one of the second origin
        have hMark :
            Text.ofString "^FO" <+: c :: (before ++ (q ++ rest)) := by
          rw [← hHere]
          exact hFirst.starts.trans (List.prefix_append p r)
        rcases hSecond.exists_tail with ⟨tail, rfl, _⟩
        rcases List.cons_prefix_cons.mp hMark with ⟨hHead, hRest⟩
        have hNone :
            CodePoint.char '^' ∉ Text.ofString "FO" := by
          decide
        have hInside : Text.ofString "FO" <+: before :=
          (Text.prefix_append_cons_iff hNone).mp hRest
        have hWhole : Text.ofString "^FO" <+: c :: before :=
          List.cons_prefix_cons.mpr ⟨hHead, hInside⟩
        exact absurd hWhole.isInfix hBefore
      · exact ih hLess hLater

/- Behind the last origin of a text no origin begins. -/
theorem IsOrigin.eq_of_suffix
    (hFirst : IsOrigin p)
    (hSecond : IsOrigin q)
    (hAfter : ¬ Text.ofString "^FO" <:+: after)
    (hEnds : p ++ r <:+ q ++ after) :
    p ++ r = q ++ after := by
  rcases hFirst.suffix_append hSecond hEnds with hHere | hLater
  · exact hHere
  · exact absurd (hFirst.infix_of_suffix hLater) hAfter

/- From the last origin of a text on there are no two of them. -/
theorem IsOrigin.not_two
    {c : CodePoint}
    {next : Text}
    (hFirst : IsOrigin p)
    (hNext : IsOrigin next)
    (hLast : IsOrigin q)
    (hAfter : ¬ Text.ofString "^FO" <:+: after) :
    ¬ p ++ c :: (next ++ r) <:+ q ++ after := by
  intro hEnds
  have hWhole := hFirst.eq_of_suffix hLast hAfter hEnds
  have hLater : next ++ r <:+ q ++ after :=
    ((List.suffix_cons _ _).trans (List.suffix_append p _)).trans
      hEnds
  have hSame := hNext.eq_of_suffix hLast hAfter hLater
  have hLength := congrArg List.length (hWhole.trans hSame.symm)
  simp only [List.length_append, List.length_cons] at hLength
  omega

/- What an origin ends with is told by the text behind it. -/
theorem IsOrigin.append_inj
    (hFirst : IsOrigin p)
    (hSecond : IsOrigin q)
    (hEnd : EndsDigits r)
    (hOther : EndsDigits rest)
    (hSame : p ++ r = q ++ rest) :
    r = rest := by
  have hRead := origin?_append hFirst hEnd
  rw [hSame, origin?_append hSecond hOther] at hRead
  exact (Prod.mk.inj (Option.some.inj hRead)).2.symm

end Places

------------------------------------------------------------
-- Pairs
------------------------------------------------------------

/- Two origins between texts in which none begins. -/
structure IsPair
    (before o next after : Text) :
    Prop where
  first : IsOrigin o
  second : IsOrigin next
  before : ¬ Text.ofString "^FO" <:+: before
  after : ¬ Text.ofString "^FO" <:+: after

/- The text of two lines, one ending and one starting there. -/
def pairText
    (before o next after : Text) :
    Text :=
  before ++ (o ++ .char '\n' :: (next ++ after))

namespace IsPair

variable {before o next after p r : Text}

/- An origin in the text of a pair is at one of its places. -/
theorem suffix_cases
    (hPair : IsPair before o next after)
    (hOrigin : IsOrigin p)
    (hEnds : p ++ r <:+ pairText before o next after) :
    p ++ r = o ++ .char '\n' :: (next ++ after) ∨
      p ++ r = next ++ after := by
  have hBehind :=
    hOrigin.suffix_of_before hPair.first hPair.before hEnds
  rcases hOrigin.suffix_append hPair.first hBehind with
    hFirst | hLater
  · exact .inl hFirst
  · have hSecond := hOrigin.suffix_of_newline hLater
    exact .inr
      (hOrigin.eq_of_suffix hPair.second hPair.after hSecond)

/- No origin is repeated from the second line on. -/
theorem not_repeated
    (hPair : IsPair before o next after)
    {s rest : Text}
    (hEnds : s <:+ next ++ after) :
    ¬ Repeated s p rest := by
  rintro ⟨hOrigin, rfl⟩
  exact hOrigin.not_two hOrigin hPair.second hPair.after hEnds

theorem prefix_of_repeated
    (hPair : IsPair before o next after)
    {s rest : Text}
    (hEnds : s <:+ pairText before o next after)
    (hRepeated : Repeated s p rest) :
    o <+: next ++ after := by
  rcases hRepeated with ⟨hOrigin, rfl⟩
  rcases hPair.suffix_cases hOrigin hEnds with hFirst | hSecond
  · rcases (hOrigin.append_newline_inj hPair.first).mp hFirst with
      ⟨rfl, hRest⟩
    exact ⟨rest, hRest⟩
  · have hHere : Repeated (next ++ after) p rest :=
      ⟨hOrigin, hSecond.symm⟩
    exact absurd hHere (hPair.not_repeated List.suffix_rfl)

------------------------------------------------------------
-- Shortened Pairs
------------------------------------------------------------

/- A pair is not at the end of a field and a text field. -/
theorem joinFields_eq
    (hPair : IsPair before o next after) :
    joinFields (pairText before o next after) =
      pairText before o next after := by
  apply (passed_joinFields _).eq_self
  rintro _ hEnds _ rest ⟨_, rfl, hStarts⟩
  rcases startsTextField_iff.mp hStarts with ⟨p, hp, r, rfl⟩
  rw [List.append_assoc] at hEnds
  have hLater :
      p ++ (Text.ofString "^A" ++ r) <:+
        pairText before o next after :=
    (List.suffix_append _ _).trans hEnds
  rcases hPair.suffix_cases hp hLater with hFirst | hSecond
  · -- a newline is behind the first origin, and no font
    have hFont : EndsDigits (Text.ofString "^A" ++ r) :=
      endsDigits_cons (by decide +kernel) _
    have hNewline :
        EndsDigits (.char '\n' :: (next ++ after)) :=
      endsDigits_cons (by decide +kernel) _
    have hSame :=
      hp.append_inj hPair.first hFont hNewline hFirst
    exact absurd (List.head_eq_of_cons_eq hSame) (by decide)
  · -- a digit is in front of the second line, and no field ends
    rcases hEnds with ⟨front, hText⟩
    rw [hSecond] at hText
    have hFront :
        front ++ Text.ofString "^FS" ++ [.char '\n'] ++
            (next ++ after) =
          before ++ o ++ [.char '\n'] ++ (next ++ after) := by
      simpa [pairText, Text.ofString] using hText
    have hLine := List.append_cancel_right
      (List.append_cancel_right hFront)
    have hOrigin : o <:+ front ++ Text.ofString "^FS" :=
      ⟨before, hLine.symm⟩
    rcases hPair.first.digit_of_suffix hOrigin with
      ⟨c, hLast, hDigit⟩
    rw [List.getLast?_append] at hLast
    rw [← Option.some.inj hLast] at hDigit
    exact absurd hDigit (by decide +kernel)

theorem collapse_eq
    (hPair : IsPair before o next after)
    (hApart : ¬ o <+: next ++ after) :
    collapse 0 (pairText before o next after) =
      pairText before o next after := by
  apply collapse_eq_self
  intro s hEnds p rest hRepeated
  exact hApart (hPair.prefix_of_repeated hEnds hRepeated)

/- A pair whose second line begins with the first origin. -/
theorem collapse_of_prefix
    (hPair : IsPair before o next after)
    (hStarts : o <+: next ++ after) :
    collapse 0 (pairText before o next after) =
      before ++ (next ++ after) := by
  have hNone :
      ∀ v, v <:+ before → v ≠ [] → ∀ p rest,
        ¬ Repeated (v ++ (o ++ .char '\n' :: (next ++ after)))
          p rest := by
    rintro v hv hSome p rest ⟨hOrigin, hText⟩
    have hPart : ¬ Text.ofString "^FO" <:+: v :=
      fun hInside => hPair.before (hInside.trans hv.isInfix)
    have hEnds :
        p ++ .char '\n' :: (p ++ rest) <:+
          v ++ (o ++ .char '\n' :: (next ++ after)) :=
      ⟨[], hText.symm⟩
    have hBehind :=
      (hOrigin.suffix_of_before hPair.first hPart hEnds).length_le
    have hLength := List.length_pos_iff.mpr hSome
    rw [← hText, List.length_append] at hBehind
    omega
  have hPassed := passed_collapse (pairText before o next after)
  rcases hPassed.append_of_none hNone with ⟨left, hText, hRest⟩
  rw [hText]
  rcases line_collapsed hPair.first hRest with
    ⟨_, _, _, hOnce⟩ | ⟨behind, last, hLine, hLeft, hLast⟩
  · exact absurd hStarts hOnce
  · have hEnds : behind <:+ next ++ after := by
      rw [hLine]
      exact List.suffix_append o behind
    have hSame : last = behind :=
      hLast.eq_self fun s hs _ _ =>
        hPair.not_repeated (hs.trans hEnds)
    rw [hLeft, hSame, hLine]

/- Without the line break no pair is left. -/
theorem not_infix
    (hPair : IsPair before o next after) :
    ¬ o ++ .char '\n' :: next <:+: before ++ (next ++ after) := by
  intro hInside
  rcases List.infix_iff_prefix_suffix.mp hInside with
    ⟨_, ⟨rest, rfl⟩, hEnds⟩
  rw [List.append_assoc, List.cons_append] at hEnds
  have hFirst :=
    hPair.first.suffix_of_before hPair.second hPair.before hEnds
  exact hPair.first.not_two hPair.second hPair.second hPair.after
    hFirst

/- A pair of different beginnings is left as it is. -/
theorem shorten_eq
    (hPair : IsPair before o next after)
    (hApart : ¬ o <+: next ++ after)
    (isZpl : Bool) :
    shorten isZpl (pairText before o next after) =
      pairText before o next after := by
  cases isZpl with
  | false => exact hPair.collapse_eq hApart
  | true =>
      change joinFields (collapse 0 _) = _
      rw [hPair.collapse_eq hApart, hPair.joinFields_eq]

theorem infix_shorten_iff
    (hPair : IsPair before o next after)
    (isZpl : Bool) :
    o ++ .char '\n' :: next <:+:
        shorten isZpl (pairText before o next after) ↔
      ¬ o <+: next ++ after := by
  constructor
  · intro hInside hStarts
    have hCollapsed :
        o ++ .char '\n' :: next <:+:
          collapse 0 (pairText before o next after) := by
      cases isZpl with
      | false => exact hInside
      | true =>
          exact (hPair.first.pair_joinFields_iff hPair.second).mp
            hInside
    rw [hPair.collapse_of_prefix hStarts] at hCollapsed
    exact hPair.not_infix hCollapsed
  · intro hApart
    rw [hPair.shorten_eq hApart]
    refine ⟨before, after, ?_⟩
    simp only [pairText, List.append_assoc, List.cons_append]

end IsPair

------------------------------------------------------------
-- Coordinates
------------------------------------------------------------

/- The command that moves to an origin. -/
def originAt
    (x y : Text) :
    Text :=
  "^FO" ++ x ++ "," ++ y

/- Whether a text is a row of ASCII digits, at least one. -/
def IsNumber
    (x : Text) :
    Prop :=
  x ≠ [] ∧ ∀ c ∈ x, Text.isAsciiDigit c = true

instance
    (x : Text) :
    Decidable (IsNumber x) :=
  inferInstanceAs
    (Decidable (x ≠ [] ∧ ∀ c ∈ x, Text.isAsciiDigit c = true))

section Coordinates

variable {x y x' y' after : Text}

theorem IsNumber.isDigits
    (hx : IsNumber x) :
    IsDigits x :=
  ⟨hx.1, fun c hMember =>
    Text.isDecimalDigit_of_isAsciiDigit (hx.2 c hMember)⟩

theorem IsNumber.comma_notMem
    (hx : IsNumber x) :
    CodePoint.char ',' ∉ x := by
  intro hComma
  exact absurd (hx.2 _ hComma) (by decide)

theorem isOrigin_originAt
    (hx : IsNumber x)
    (hy : IsNumber y) :
    IsOrigin (originAt x y) :=
  ⟨x, y, hx.isDigits, hy.isDigits, rfl⟩

/- A number that a text begins with ends before the first other
character. -/
theorem IsNumber.prefix_append_iff
    (hy : IsNumber y)
    (hEnd : ∀ c, after.head? = some c → Text.isAsciiDigit c = false) :
    y <+: y' ++ after ↔ y <+: y' := by
  constructor
  · intro hStarts
    rcases List.prefix_or_prefix_of_prefix hStarts
        (List.prefix_append y' after) with hShort | ⟨more, rfl⟩
    · exact hShort
    · have hBehind :=
        (List.prefix_append_right_inj y').mp hStarts
      cases more with
      | nil => simp
      | cons c more =>
          rcases hBehind with ⟨rest, rfl⟩
          have hDigit :=
            hy.2 c (List.mem_append_right y' List.mem_cons_self)
          rw [hEnd c rfl] at hDigit
          cases hDigit
  · intro hStarts
    exact hStarts.trans (List.prefix_append y' after)

/-
  An origin begins a line when the first numbers are the same and
  the second number of the line begins with its own.
-/
theorem originAt_prefix_iff
    (hx : IsNumber x)
    (hx' : IsNumber x')
    (hy : IsNumber y)
    (hEnd : ∀ c, after.head? = some c → Text.isAsciiDigit c = false) :
    originAt x y <+: originAt x' y' ++ after ↔
      x = x' ∧ y <+: y' := by
  have hText :
      ∀ u v : Text,
        originAt u v = Text.ofString "^FO" ++ (u ++ .char ',' :: v) := by
    intro u v
    simp [originAt, Text.ofString]
  rw [← hy.prefix_append_iff hEnd, hText, hText, List.append_assoc,
    List.prefix_append_right_inj, List.append_assoc,
    List.cons_append]
  constructor
  · rintro ⟨rest, hSame⟩
    rw [List.append_assoc, List.cons_append] at hSame
    rcases (Text.append_cons_inj hx.comma_notMem
      hx'.comma_notMem).mp hSame with ⟨hFirst, hSecond⟩
    exact ⟨hFirst, rest, hSecond⟩
  · rintro ⟨rfl, rest, hSecond⟩
    refine ⟨rest, ?_⟩
    rw [List.append_assoc, List.cons_append, hSecond]

end Coordinates

end Optimizer

/-
  Two lines with origins, in a text without others, stay exactly
  if the second origin does not go on from the first one: then
  the whole text is left as it is.
-/
theorem optimizeCode_keeps_origins_iff
    {x y x' y' before after : Text}
    (hx : Optimizer.IsNumber x)
    (hy : Optimizer.IsNumber y)
    (hx' : Optimizer.IsNumber x')
    (hy' : Optimizer.IsNumber y')
    (hBefore : ¬ Text.ofString "^FO" <:+: before)
    (hAfter : ¬ Text.ofString "^FO" <:+: after)
    (hEnd : ∀ c, after.head? = some c → Text.isAsciiDigit c = false)
    (protocol : Text) :
    let lines : Text :=
      Optimizer.originAt x y ++ "\n" ++ Optimizer.originAt x' y'
    let code := before ++ lines ++ after
    (lines <:+: optimizeCode code protocol ↔
      ¬ (x = x' ∧ y <+: y')) ∧
    (¬ (x = x' ∧ y <+: y') → optimizeCode code protocol = code) := by
  intro lines code
  have hPair :
      Optimizer.IsPair before (Optimizer.originAt x y)
        (Optimizer.originAt x' y') after :=
    ⟨Optimizer.isOrigin_originAt hx hy,
      Optimizer.isOrigin_originAt hx' hy', hBefore, hAfter⟩
  have hLines :
      lines = Optimizer.originAt x y ++
        .char '\n' :: Optimizer.originAt x' y' := by
    simp [lines, Text.ofString]
  have hCode :
      code = Optimizer.pairText before (Optimizer.originAt x y)
        (Optimizer.originAt x' y') after := by
    simp only [code, hLines, Optimizer.pairText, List.append_assoc,
      List.cons_append]
  have hStarts :
      Optimizer.originAt x y <+: Optimizer.originAt x' y' ++ after ↔
        x = x' ∧ y <+: y' :=
    Optimizer.originAt_prefix_iff hx hx' hy hEnd
  rw [hCode, hLines, ← hStarts]
  exact ⟨hPair.infix_shorten_iff _, fun hApart =>
    hPair.shorten_eq hApart _⟩

/-
  An origin stays in front of one that its second number goes on
  from, also behind what looks like the start of an origin.
-/
theorem optimizeCode_keeps_origins_iff_shorter :
    let before : Text := "^FS\n^F"
    let after : Text := "^AAN,14"
    let lines : Text := "^FO12,34\n^FO12,3"
    (Optimizer.IsNumber "12" ∧ Optimizer.IsNumber "34" ∧
        Optimizer.IsNumber "3") ∧
      (¬ Text.ofString "^FO" <:+: before ∧
        ¬ Text.ofString "^FO" <:+: after) ∧
      (∀ c, after.head? = some c → Text.isAsciiDigit c = false) ∧
      lines <:+: optimizeCode (before ++ lines ++ after) " zpl" := by
  intro before after lines
  have hNumbers :
      Optimizer.IsNumber "12" ∧ Optimizer.IsNumber "34" ∧
        Optimizer.IsNumber "3" := by
    decide +kernel
  have hNone :
      ¬ Text.ofString "^FO" <:+: before ∧
        ¬ Text.ofString "^FO" <:+: after := by
    decide +kernel
  have hEnd :
      ∀ c, after.head? = some c →
        Text.isAsciiDigit c = false := by
    intro c hHead
    rw [← Option.some.inj hHead]
    decide
  have hKept :=
    optimizeCode_keeps_origins_iff hNumbers.1 hNumbers.2.1
      hNumbers.1 hNumbers.2.2 hNone.1 hNone.2 hEnd " zpl"
  exact ⟨hNumbers, hNone, hEnd, hKept.1.mpr (by decide +kernel)⟩

/-
  An origin is lost when the second number of the next one begins
  with its own.
-/
theorem optimizeCode_longer_origin :
    optimizeCode "^FO1,1\n^FO1,12" "ZPL" = "^FO1,12" ∧
      ¬ Text.ofString "^FO1,1\n^FO1,12" <:+:
        optimizeCode "^FO1,1\n^FO1,12" "ZPL" := by
  decide +kernel

end LabelPress

import LabelPress.Proofs.Printer.Shortening

/-
  What collapsing leaves.

  Where a line ends in an origin that the next line begins with,
  the origin is written once, and the pass goes on behind both.
  What it has written is not looked at again.  So a repeat is left
  exactly where an origin goes through a line: at the end of one
  line, over a next one that is an origin and nothing else, to a
  third one that begins with both.

  Main declarations:
    * `Optimizer.Repeats`, `Optimizer.RepeatsThrough`
    * `Optimizer.line_collapsed`, `Optimizer.line_of_collapsed`
    * `Optimizer.repeats_collapse_iff`
-/

namespace LabelPress

namespace Optimizer

------------------------------------------------------------
-- Carets of Origins
------------------------------------------------------------

section IsOrigin

variable {o p q : Text}

/- An origin has its only caret in front. -/
theorem IsOrigin.exists_tail
    (hOrigin : IsOrigin o) :
    ∃ tail : Text,
      o = .char '^' :: tail ∧ .char '^' ∉ tail := by
  have hDigits :
      ∀ s, IsDigits s → .char '^' ∉ s := by
    intro s hs hCaret
    exact absurd (hs.2 _ hCaret) (by decide +kernel)
  rcases hOrigin with ⟨x, y, hx, hy, rfl⟩
  refine ⟨"FO" ++ x ++ "," ++ y, by simp [Text.ofString], ?_⟩
  simp [Text.ofString, hDigits x hx, hDigits y hy]

/- What makes an origin a longer one has no caret. -/
theorem IsOrigin.notMem_of_append
    {row : Text}
    (hOrigin : IsOrigin o)
    (hLonger : IsOrigin (o ++ row)) :
    .char '^' ∉ row := by
  rcases hOrigin.exists_tail with ⟨tail, rfl, _⟩
  rcases hLonger.exists_tail with ⟨other, hOther, hNone⟩
  obtain rfl : tail ++ row = other := List.tail_eq_of_cons_eq hOther
  exact fun hCaret => hNone (List.mem_append_right tail hCaret)

/- What begins with an origin begins at no later character. -/
theorem IsOrigin.suffix_append
    {r s : Text}
    (hFirst : IsOrigin p)
    (hSecond : IsOrigin q)
    (hEnds : p ++ r <:+ q ++ s) :
    p ++ r = q ++ s ∨ p ++ r <:+ s := by
  rcases hFirst.exists_tail with ⟨tail, rfl, _⟩
  rcases hSecond.exists_tail with ⟨other, rfl, hNone⟩
  rw [List.cons_append, List.cons_append] at hEnds ⊢
  rcases List.suffix_cons_iff.mp hEnds with hHere | hLater
  · exact .inl hHere
  · exact .inr (Text.suffix_of_suffix_append hNone hLater)

theorem IsOrigin.suffix_of_newline
    {r s : Text}
    (hOrigin : IsOrigin p)
    (hEnds : p ++ r <:+ .char '\n' :: s) :
    p ++ r <:+ s := by
  rcases hOrigin.exists_tail with ⟨tail, rfl, _⟩
  have hNewline : .char '^' ∉ [CodePoint.char '\n'] := by decide
  exact Text.suffix_of_suffix_append hNewline hEnds

/- Two lines that begin with origins end at their newlines. -/
theorem IsOrigin.append_newline_inj
    {r s : Text}
    (hFirst : IsOrigin p)
    (hSecond : IsOrigin q) :
    p ++ .char '\n' :: r = q ++ .char '\n' :: s ↔
      p = q ∧ r = s :=
  Text.append_cons_inj hFirst.isLine hSecond.isLine

end IsOrigin

------------------------------------------------------------
-- Collapsing as a Pass
------------------------------------------------------------

theorem isMarked_repeated :
    IsMarked Repeated "^FO" := by
  rintro s o rest ⟨hOrigin, rfl⟩
  exact ⟨hOrigin.starts.trans (List.prefix_append o _),
    hOrigin.starts⟩

theorem avoids_of_caret_notMem
    {row : Text}
    (hNone : .char '^' ∉ row) :
    Text.Avoids "^FO" row :=
  Text.avoids_of_notMem hNone

theorem Repeated.length_lt
    (s o rest : Text)
    (hRepeated : Repeated s o rest) :
    (o ++ rest).length < s.length := by
  rcases hRepeated with ⟨_, rfl⟩
  simp only [List.length_append, List.length_cons]
  omega

section Collapsed

variable {o p q r s t rest l left next after : Text}

/- What makes an origin a longer line has no mark in it. -/
theorem IsOrigin.exists_row
    (hShort : IsOrigin q)
    (hLong : IsOrigin p)
    (hText : q ++ rest = p ++ .char '\n' :: r) :
    ∃ row, p = q ++ row ∧ rest = row ++ [.char '\n'] ++ r ∧
      Text.Avoids "^FO" (row ++ [.char '\n']) := by
  have hStarts : q <+: p :=
    hShort.isLine.prefix_of_prefix ⟨rest, hText⟩
  rcases hStarts with ⟨row, rfl⟩
  have hNone : .char '^' ∉ row ++ [.char '\n'] := by
    simp [hShort.notMem_of_append hLong]
  refine ⟨row, rfl, ?_, avoids_of_caret_notMem hNone⟩
  rw [List.append_assoc, List.append_cancel_left_eq] at hText
  rw [hText, List.append_cons]

/- A line that goes on from an origin is copied to its end. -/
theorem append_line_collapsed
    (hShort : IsOrigin q)
    (hLong : IsOrigin p)
    (hText : q ++ rest = p ++ .char '\n' :: r)
    (hPassed : Passed Repeated rest left) :
    ∃ l, q ++ left = p ++ .char '\n' :: l ∧
      Passed Repeated r l := by
  rcases hShort.exists_row hLong hText with
    ⟨row, rfl, rfl, hAvoids⟩
  rcases hPassed.append_left isMarked_repeated hAvoids with
    ⟨l, rfl, hRest⟩
  exact ⟨l, by simp, hRest⟩

theorem append_line_of_collapsed
    (hShort : IsOrigin q)
    (hLong : IsOrigin p)
    (hText : q ++ left = p ++ .char '\n' :: l)
    (hPassed : Passed Repeated rest left) :
    ∃ r, q ++ rest = p ++ .char '\n' :: r ∧
      Passed Repeated r l := by
  rcases hShort.exists_row hLong hText with
    ⟨row, rfl, rfl, hAvoids⟩
  rcases hPassed.append_right isMarked_repeated hAvoids with
    ⟨r, rfl, hRest⟩
  exact ⟨r, by simp, hRest⟩

/- Behind an origin, longer ones begin in both texts or none. -/
theorem prefix_append_collapsed_iff
    (hShort : IsOrigin q)
    (hLong : IsOrigin p)
    (hPassed : Passed Repeated rest left) :
    p <+: q ++ left ↔ p <+: q ++ rest := by
  by_cases hLonger : q <+: p
  · rcases hLonger with ⟨row, rfl⟩
    rw [List.prefix_append_right_inj,
      List.prefix_append_right_inj]
    exact hPassed.prefix_iff isMarked_repeated
      (avoids_of_caret_notMem (hShort.notMem_of_append hLong))
  · have hWithin :
        ∀ z, p <+: q ++ z ↔ p <+: q := fun z =>
      ⟨fun hStarts =>
        (List.prefix_or_prefix_of_prefix hStarts
          (List.prefix_append q z)).resolve_right hLonger,
        fun hStarts => hStarts.trans (List.prefix_append q z)⟩
    rw [hWithin, hWithin]

/-
  The first step at an origin: it is copied, or collapsed with the
  line behind it.
-/
theorem collapsed_append
    (hOrigin : IsOrigin p)
    (hPassed : Passed Repeated (p ++ s) t) :
    (∃ left, t = p ++ left ∧ Passed Repeated s left ∧
        ∀ o after, ¬ Repeated (p ++ s) o after) ∨
      ∃ o rest left, Repeated (p ++ s) o rest ∧
        t = o ++ left ∧ Passed Repeated rest left := by
  rcases hOrigin.exists_tail with ⟨tail, hText, hNone⟩
  have hAvoids := avoids_of_caret_notMem hNone
  generalize hWhole : p ++ s = whole at hPassed ⊢
  cases hPassed with
  | nil => simp [hText] at hWhole
  | keep hKept hRest =>
      rw [hText, List.cons_append] at hWhole
      obtain ⟨rfl, rfl⟩ := List.cons.inj hWhole
      rcases hRest.append_left isMarked_repeated hAvoids with
        ⟨left, rfl, hLater⟩
      exact .inl ⟨left, by rw [hText]; rfl, hLater, hKept⟩
  | apply hRule hRest => exact .inr ⟨_, _, _, hRule, rfl, hRest⟩

/- The first step that an origin comes from. -/
theorem collapsed_eq_append
    (hOrigin : IsOrigin p)
    (hPassed : Passed Repeated s (p ++ left)) :
    (∃ rest, s = p ++ rest ∧ Passed Repeated rest left ∧
        ∀ o after, ¬ Repeated s o after) ∨
      ∃ o rest later, Repeated s o rest ∧
        p ++ left = o ++ later ∧ Passed Repeated rest later := by
  rcases hOrigin.exists_tail with ⟨tail, hText, hNone⟩
  have hAvoids := avoids_of_caret_notMem hNone
  generalize hWhole : p ++ left = whole at hPassed ⊢
  cases hPassed with
  | nil => simp [hText] at hWhole
  | keep hKept hRest =>
      rw [hText, List.cons_append] at hWhole
      obtain ⟨rfl, rfl⟩ := List.cons.inj hWhole
      rcases hRest.append_right isMarked_repeated hAvoids with
        ⟨rest, rfl, hLater⟩
      exact .inl ⟨rest, by rw [hText]; rfl, hLater, hKept⟩
  | apply hRule hRest => exact .inr ⟨_, _, _, hRule, rfl, hRest⟩

/- An origin at the start of a text stays there. -/
theorem prefix_collapsed
    (hOrigin : IsOrigin p)
    (hStarts : p <+: s)
    (hPassed : Passed Repeated s t) :
    p <+: t := by
  rcases hStarts with ⟨rest, rfl⟩
  rcases collapsed_append hOrigin hPassed with
    ⟨left, rfl, _⟩ | ⟨o, _, left, ⟨_, hText⟩, rfl, _⟩
  · exact List.prefix_append p left
  · have hShort : p <+: o :=
      hOrigin.isLine.prefix_of_prefix ⟨rest, hText⟩
    exact hShort.trans (List.prefix_append o left)

/-
  An origin at the start of what comes was there, or at the start
  of the second of two lines that were collapsed.
-/
theorem prefix_of_collapsed
    (hOrigin : IsOrigin p)
    (hStarts : p <+: t)
    (hPassed : Passed Repeated s t) :
    p <+: s ∨
      ∃ q after, IsOrigin q ∧ q <+: after ∧ p <+: after ∧
        s = q ++ .char '\n' :: after := by
  rcases hStarts with ⟨left, rfl⟩
  rcases collapsed_eq_append hOrigin hPassed with
    ⟨rest, rfl, _⟩ | ⟨q, rest, later, ⟨hq, rfl⟩, hBoth, hRest⟩
  · exact .inl (List.prefix_append p rest)
  · have hBehind : p <+: q ++ rest :=
      (prefix_append_collapsed_iff hq hOrigin hRest).mp
        ⟨left, hBoth⟩
    exact .inr ⟨q, _, hq, List.prefix_append q rest, hBehind, rfl⟩

/-
  A line that ends in an origin is copied with its newline, or
  collapsed with the next one, which begins with the origin.
-/
theorem line_collapsed
    (hOrigin : IsOrigin p)
    (hPassed : Passed Repeated (p ++ .char '\n' :: r) t) :
    (∃ l, t = p ++ .char '\n' :: l ∧ Passed Repeated r l ∧
        ¬ p <+: r) ∨
      ∃ rest left, r = p ++ rest ∧ t = p ++ left ∧
        Passed Repeated rest left := by
  rcases collapsed_append hOrigin hPassed with
    ⟨left, rfl, hRest, hKept⟩ |
      ⟨o, rest, left, ⟨ho, hText⟩, rfl, hRest⟩
  · rcases append_line_collapsed hOrigin hOrigin rfl hRest with
      ⟨l, hLine, hLater⟩
    refine .inl ⟨l, hLine, hLater, ?_⟩
    rintro ⟨after, rfl⟩
    exact hKept p after ⟨hOrigin, rfl⟩
  · obtain ⟨rfl, rfl⟩ :=
      (hOrigin.append_newline_inj ho).mp hText
    exact .inr ⟨rest, left, rfl, rfl, hRest⟩

/-
  A line that ends in an origin was there, and was not repeated,
  or it is what two lines were collapsed to, the first of which
  was the start of the second.
-/
theorem line_of_collapsed
    (hOrigin : IsOrigin p)
    (hPassed : Passed Repeated s (p ++ .char '\n' :: l)) :
    ∃ r, Passed Repeated r l ∧
      (s = p ++ .char '\n' :: r ∧ ¬ p <+: r ∨
        ∃ o, IsOrigin o ∧ o <+: p ∧
          s = o ++ .char '\n' :: (p ++ .char '\n' :: r)) := by
  rcases collapsed_eq_append hOrigin hPassed with
    ⟨behind, rfl, hRest, hKept⟩ |
      ⟨o, rest, later, ⟨ho, rfl⟩, hBoth, hRest⟩
  · rcases append_line_of_collapsed hOrigin hOrigin rfl hRest with
      ⟨r, hLine, hLater⟩
    refine ⟨r, hLater, .inl ⟨hLine, ?_⟩⟩
    rintro ⟨after, rfl⟩
    exact hKept p after ⟨hOrigin, hLine⟩
  · rcases append_line_of_collapsed ho hOrigin hBoth.symm hRest
      with ⟨r, hLine, hLater⟩
    have hShort : o <+: p :=
      ho.isLine.prefix_of_prefix ⟨rest, hLine⟩
    exact ⟨r, hLater, .inr ⟨o, ho, hShort, by rw [hLine]⟩⟩

/- Of two lines, the second begins with what both began with. -/
theorem prefix_of_pair_collapsed
    (hOrigin : IsOrigin p)
    (hNext : IsOrigin q)
    (hStarts : p <+: after)
    (hRepeated : q <+: after)
    (hPassed : Passed Repeated (q ++ .char '\n' :: after) l) :
    p <+: l := by
  rcases line_collapsed hNext hPassed with
    ⟨_, _, _, hOnce⟩ | ⟨rest, left, rfl, rfl, hRest⟩
  · exact absurd hRepeated hOnce
  · exact (prefix_append_collapsed_iff hNext hOrigin hRest).mpr
      hStarts

end Collapsed

------------------------------------------------------------
-- What One Call Leaves
------------------------------------------------------------

/- Whether an origin comes right before a line it begins. -/
def Repeats
    (s : Text) :
    Prop :=
  ∃ o, IsOrigin o ∧ o ++ .char '\n' :: o <:+: s

/-
  Whether a line ends in an origin, the next is an origin and
  nothing else, and the line after that begins with both.
-/
def RepeatsThrough
    (s : Text) :
    Prop :=
  ∃ o next after : Text, IsOrigin o ∧ IsOrigin next ∧
    o <+: after ∧ next <+: after ∧
      o ++ .char '\n' :: (next ++ .char '\n' :: after) <:+ s

theorem Repeats.mono
    {s t : Text}
    (hInside : s <:+: t)
    (hRepeats : Repeats s) :
    Repeats t := by
  rcases hRepeats with ⟨o, ho, hFound⟩
  exact ⟨o, ho, hFound.trans hInside⟩

theorem RepeatsThrough.mono
    {s t : Text}
    (hEnds : s <:+ t)
    (hRepeats : RepeatsThrough s) :
    RepeatsThrough t := by
  rcases hRepeats with
    ⟨o, next, after, ho, hNext, hStarts, hRepeated, hFound⟩
  exact ⟨o, next, after, ho, hNext, hStarts, hRepeated,
    hFound.trans hEnds⟩

theorem repeats_iff_exists_repeated
    {s : Text} :
    Repeats s ↔ ∃ s' o rest, s' <:+ s ∧ Repeated s' o rest := by
  constructor
  · rintro ⟨o, ho, before, rest, rfl⟩
    refine ⟨o ++ .char '\n' :: (o ++ rest), o, rest,
      ⟨before, ?_⟩, ho, rfl⟩
    simp
  · rintro ⟨_, o, rest, hEnds, ho, rfl⟩
    refine ⟨o, ho, List.IsInfix.trans ⟨[], rest, ?_⟩ hEnds.isInfix⟩
    simp

section Collapsed

variable {o s t rest left next after : Text}

theorem IsOrigin.repeats
    (ho : IsOrigin o)
    (hStarts : o <+: after) :
    Repeats (o ++ .char '\n' :: after) := by
  rcases hStarts with ⟨rest, rfl⟩
  exact ⟨o, ho, [], rest, by simp⟩

/- Two lines in front of a third leave a repeat behind them. -/
theorem repeats_of_lines_collapsed
    (ho : IsOrigin o)
    (hNext : IsOrigin next)
    (hStarts : o <+: after)
    (hRepeated : next <+: after)
    (hPassed :
      Passed Repeated
        (o ++ .char '\n' :: (next ++ .char '\n' :: after)) t) :
    Repeats t := by
  rcases line_collapsed ho hPassed with
    ⟨l, rfl, hRest, _⟩ | ⟨rest, left, hLine, rfl, hRest⟩
  · exact ho.repeats
      (prefix_of_pair_collapsed ho hNext hStarts hRepeated hRest)
  · rcases append_line_collapsed ho hNext hLine.symm hRest with
      ⟨l, hLeft, hLater⟩
    rw [hLeft]
    exact hNext.repeats (prefix_collapsed hNext hRepeated hLater)

theorem repeatsThrough_of_pair
    (ho : IsOrigin o)
    (hPair : o ++ .char '\n' :: o <+: t)
    (hPassed : Passed Repeated s t) :
    RepeatsThrough s := by
  rcases hPair with ⟨left, hText⟩
  rw [List.append_assoc, List.cons_append] at hText
  rw [← hText] at hPassed
  have hAgain : o <+: o ++ left := List.prefix_append o left
  rcases line_of_collapsed ho hPassed with ⟨r, hRest, hLine⟩
  rcases prefix_of_collapsed ho hAgain hRest with
    hStarts | ⟨q, after, hq, hRepeated, hStarts, rfl⟩
  · rcases hLine with ⟨_, hOnce⟩ | ⟨p, hp, hShort, rfl⟩
    · exact absurd hStarts hOnce
    · exact ⟨p, o, r, hp, ho, hShort.trans hStarts, hStarts,
        List.suffix_rfl⟩
  · have hHere :
        RepeatsThrough
          (o ++ .char '\n' :: (q ++ .char '\n' :: after)) :=
      ⟨o, q, after, ho, hq, hStarts, hRepeated, List.suffix_rfl⟩
    rcases hLine with ⟨rfl, _⟩ | ⟨p, _, _, rfl⟩
    · exact hHere
    · exact hHere.mono
        ((List.suffix_cons _ _).trans (List.suffix_append p _))

/-
  By induction on the pass.  A repeat is left at the first of its
  steps or behind it, since an origin that is written begins no
  other one.
-/
theorem repeatsThrough_of_collapsed
    (hRepeats : Repeats t)
    (hPassed : Passed Repeated s t) :
    RepeatsThrough s := by
  rcases hRepeats with ⟨o, ho, hFound⟩
  induction hPassed with
  | nil => simpa using List.eq_nil_of_infix_nil hFound
  | @keep c cs left hKept hRest ih =>
      rcases List.infix_cons_iff.mp hFound with hHere | hLater
      · exact repeatsThrough_of_pair ho hHere (.keep hKept hRest)
      · exact (ih hLater).mono (List.suffix_cons c cs)
  | @apply s p rest left hRule hRest ih =>
      rcases List.infix_iff_prefix_suffix.mp hFound with
        ⟨_, ⟨after, rfl⟩, hEnds⟩
      rw [List.append_assoc] at hEnds
      rcases ho.suffix_append hRule.1 hEnds with hHere | hLater
      · have hPair : o ++ .char '\n' :: o <+: p ++ left :=
          ⟨after, by rw [List.append_assoc, hHere]⟩
        exact repeatsThrough_of_pair ho hPair (.apply hRule hRest)
      · have hBehind : o ++ .char '\n' :: o <:+: left :=
          List.IsInfix.trans
            ⟨[], after, by rw [List.nil_append, List.append_assoc]⟩
            hLater.isInfix
        rw [hRule.2]
        refine (ih hBehind).mono ?_
        exact (List.suffix_append p rest).trans
          ((List.suffix_cons _ _).trans (List.suffix_append p _))

/-
  By induction on the pass.  In two lines that are collapsed, what
  is repeated through begins at the first origin or at the second
  one, of which the line may go on.
-/
theorem repeats_collapsed
    (hRepeats : RepeatsThrough s)
    (hPassed : Passed Repeated s t) :
    Repeats t := by
  rcases hRepeats with
    ⟨o, next, after, ho, hNext, hStarts, hRepeated, hFound⟩
  induction hPassed with
  | nil => simpa using List.suffix_nil.mp hFound
  | @keep c cs left hKept hRest ih =>
      rcases List.suffix_cons_iff.mp hFound with hHere | hLater
      · have hWhole : Passed Repeated (c :: cs) (c :: left) :=
          .keep hKept hRest
        rw [← hHere] at hWhole
        exact repeats_of_lines_collapsed ho hNext hStarts hRepeated
          hWhole
      · exact (ih hLater).mono (List.suffix_cons c left).isInfix
  | @apply s p rest left hRule hRest ih =>
      have hWhole : Passed Repeated s (p ++ left) :=
        .apply hRule hRest
      rcases hRule with ⟨hp, rfl⟩
      rcases ho.suffix_append hp hFound with hFirst | hBehind
      · rw [← hFirst] at hWhole
        exact repeats_of_lines_collapsed ho hNext hStarts hRepeated
          hWhole
      · rcases ho.suffix_append hp (ho.suffix_of_newline hBehind)
          with hSecond | hLater
        · rcases append_line_collapsed hp ho hSecond.symm hRest
            with ⟨l, hText, hLines⟩
          rw [hText]
          exact ho.repeats
            (prefix_of_pair_collapsed ho hNext hStarts hRepeated
              hLines)
        · exact (ih hLater).mono (List.suffix_append p left).isInfix

/- A repeat is left where a line was passed over. -/
theorem repeats_collapse_iff
    {code : Text} :
    Repeats (collapse 0 code) ↔ RepeatsThrough code := by
  have hPassed := passed_collapse code
  exact ⟨fun hRepeats =>
      repeatsThrough_of_collapsed hRepeats hPassed,
    fun hRepeats => repeats_collapsed hRepeats hPassed⟩

end Collapsed

end Optimizer

end LabelPress

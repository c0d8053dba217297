import LabelPress.Printer.Optimizer
import LabelPress.Proofs.Text.Passes
import Mathlib.Data.List.TakeWhile

/-
  What shortening does to a text.

  Joining fields leaves out the newlines at the joints of a text,
  which are those between the end of a field and the origin of a
  text field, and nothing else.  This holds for every text.
  Repeated origins are collapsed in one pass.  They are not met in
  texts of lines none of which ends in an origin that starts
  another.

  Main declarations:
    * `Optimizer.IsOrigin`, `Optimizer.IsJoint`
    * `Optimizer.WithoutJoints`
    * `Optimizer.withoutJoints_joinFields`
    * `Optimizer.Repeated`, `Optimizer.passed_collapse`
    * `Optimizer.collapse_ended`
-/

namespace LabelPress

namespace Optimizer

------------------------------------------------------------
-- Origins
------------------------------------------------------------

/- Whether a text is a row of decimal digits, at least one. -/
def IsDigits
    (s : Text) :
    Prop :=
  s ≠ [] ∧ ∀ c ∈ s, Text.isDecimalDigit c = true

/- Whether a text is the command that moves to an origin. -/
def IsOrigin
    (o : Text) :
    Prop :=
  ∃ x y : Text, IsDigits x ∧ IsDigits y ∧
    o = "^FO" ++ x ++ "," ++ y

/- Whether a text does not go on with a digit. -/
def EndsDigits
    (rest : Text) :
    Prop :=
  ∀ c, rest.head? = some c → Text.isDecimalDigit c = false

theorem endsDigits_cons
    {c : CodePoint}
    (hOther : Text.isDecimalDigit c = false)
    (rest : Text) :
    EndsDigits (c :: rest) := by
  intro d hHead
  rw [← Option.some.inj hHead]
  exact hOther

section Reading

variable {cs o rest : Text}

theorem digits?_append
    {ds : Text}
    (hDigits : IsDigits ds)
    (hEnd : EndsDigits rest) :
    digits? (ds ++ rest) = some (ds, rest) := by
  rcases hDigits with ⟨hSome, hAll⟩
  have hTake :
      (ds ++ rest).takeWhile Text.isDecimalDigit = ds := by
    rw [List.takeWhile_append_of_pos hAll]
    cases rest with
    | nil => simp
    | cons c rest => simp [hEnd c rfl]
  have hDrop :
      (ds ++ rest).dropWhile Text.isDecimalDigit = rest := by
    rw [List.dropWhile_append_of_pos hAll]
    cases rest with
    | nil => rfl
    | cons c rest => simp [hEnd c rfl]
  unfold digits?
  rw [hTake, hDrop]
  cases ds with
  | nil => exact absurd rfl hSome
  | cons d ds => rfl

theorem digits?_eq_some
    {ds : Text}
    (hRead : digits? cs = some (ds, rest)) :
    IsDigits ds ∧ cs = ds ++ rest := by
  unfold digits? at hRead
  split at hRead
  · cases hRead
  · rename_i hOther
    obtain ⟨rfl, rfl⟩ := Prod.mk.inj (Option.some.inj hRead)
    refine ⟨⟨hOther, ?_⟩, ?_⟩
    · intro c hMember
      exact List.mem_takeWhile_imp hMember
    · exact List.takeWhile_append_dropWhile.symm

theorem origin?_eq_some
    (hOrigin : origin? cs = some (o, rest)) :
    IsOrigin o ∧ cs = o ++ rest := by
  unfold origin? at hOrigin
  split at hOrigin
  · rename_i cs
    rcases Option.bind_eq_some_iff.mp hOrigin with
      ⟨⟨x, after⟩, hx, hComma⟩
    dsimp only at hComma
    split at hComma
    · rename_i after
      rcases Option.bind_eq_some_iff.mp hComma with
        ⟨⟨y, last⟩, hy, hBoth⟩
      obtain ⟨rfl, rfl⟩ :=
        Prod.mk.inj (Option.some.inj hBoth)
      rcases digits?_eq_some hx with ⟨hLeft, rfl⟩
      rcases digits?_eq_some hy with ⟨hRight, rfl⟩
      refine ⟨⟨x, y, hLeft, hRight, rfl⟩, ?_⟩
      simp [Text.ofString]
    · cases hComma
  · cases hOrigin

theorem origin?_append
    (hOrigin : IsOrigin o)
    (hEnd : EndsDigits rest) :
    origin? (o ++ rest) = some (o, rest) := by
  rcases hOrigin with ⟨x, y, hx, hy, rfl⟩
  have hComma : EndsDigits (.char ',' :: (y ++ rest)) :=
    endsDigits_cons (by decide +kernel) _
  have hFirst := digits?_append hx hComma
  have hSecond := digits?_append hy hEnd
  have hText :
      "^FO" ++ x ++ "," ++ y ++ rest =
        .char '^' :: .char 'F' :: .char 'O' ::
          (x ++ .char ',' :: (y ++ rest)) := by
    simp [Text.ofString]
  rw [hText]
  simp only [origin?, hFirst, hSecond, Option.bind_eq_bind,
    Option.bind_some]

end Reading

------------------------------------------------------------
-- Joints
------------------------------------------------------------

/-
  Whether there is a joint between two texts: the end of a field
  before it, and the origin of a text field after it.
-/
def IsJoint
    (before after : Text) :
    Prop :=
  Text.ofString "^FS" <:+ before ∧
    ∃ o, IsOrigin o ∧ o ++ Text.ofString "^A" <+: after

theorem startsTextField_iff
    {cs : Text} :
    startsTextField cs = true ↔
      ∃ o, IsOrigin o ∧ o ++ Text.ofString "^A" <+: cs := by
  constructor
  · intro hStarts
    unfold startsTextField at hStarts
    split at hStarts
    · rename_i o rest hOrigin
      rcases origin?_eq_some hOrigin with ⟨ho, rfl⟩
      refine ⟨o, ho, rest, ?_⟩
      simp [Text.ofString]
    · cases hStarts
  · rintro ⟨o, ho, rest, rfl⟩
    have hEnd : EndsDigits (.char '^' :: .char 'A' :: rest) :=
      endsDigits_cons (by decide +kernel) _
    have hText :
        o ++ Text.ofString "^A" ++ rest =
          o ++ .char '^' :: .char 'A' :: rest := by
      simp [Text.ofString]
    rw [hText, startsTextField, origin?_append ho hEnd]
    rfl

/-
  What is left of the rest of a text, behind what stands before
  it, when the newlines at the joints are left out.
-/
inductive WithoutJoints :
    Text → Text → Text → Prop where
  | nil
      (before : Text) :
      WithoutJoints before [] []
  | drop
      {before rest left : Text}
      (hJoint : IsJoint before rest)
      (hRest :
        WithoutJoints (before ++ [.char '\n']) rest left) :
      WithoutJoints before (.char '\n' :: rest) left
  | keep
      {before rest left : Text}
      {c : CodePoint}
      (hKept : c = .char '\n' → ¬ IsJoint before rest)
      (hRest :
        WithoutJoints (before ++ [c]) rest left) :
      WithoutJoints before (c :: rest) (c :: left)

/- There is one way to leave out the newlines at the joints. -/
theorem WithoutJoints.unique
    {before code left other : Text}
    (hLeft : WithoutJoints before code left)
    (hOther : WithoutJoints before code other) :
    left = other := by
  induction hLeft generalizing other with
  | nil before =>
      cases hOther
      rfl
  | drop hJoint hRest ih =>
      cases hOther with
      | drop hJoint' hRest' => exact ih hRest'
      | keep hKept hRest' => exact absurd hJoint (hKept rfl)
  | keep hKept hRest ih =>
      cases hOther with
      | drop hJoint hRest' => exact absurd hJoint (hKept rfl)
      | keep hKept' hRest' => rw [ih hRest']

/-
  Whether no end of a line of fields begins before a place and
  goes on after it.
-/
def IsApart
    (before after : Text) :
    Prop :=
  ∀ u v, u ++ v = Text.ofString "^FS\n" → u ≠ [] → v ≠ [] →
    u <:+ before → ¬ v <+: after

theorem isApart_nil
    (after : Text) :
    IsApart [] after := by
  intro u v _ hu _ hEnds
  exact absurd (List.eq_nil_of_suffix_nil hEnds) hu

/- What ends in a last character has it as its own last one. -/
theorem exists_of_suffix_concat
    {u before : Text}
    {c : CodePoint}
    (hSome : u ≠ [])
    (hEnds : u <:+ before ++ [c]) :
    ∃ u', u = u' ++ [c] ∧ u' <:+ before := by
  rcases List.eq_nil_or_concat u with rfl | ⟨u', d, rfl⟩
  · exact absurd rfl hSome
  · rcases hEnds with ⟨t, ht⟩
    rw [List.concat_eq_append, ← List.append_assoc] at ht
    rcases List.append_inj' ht rfl with ⟨hBefore, hLast⟩
    obtain rfl : d = c := List.head_eq_of_cons_eq hLast
    exact ⟨u', List.concat_eq_append, t, hBefore⟩

/- Behind a newline nothing has begun. -/
theorem isApart_newline
    (before after : Text) :
    IsApart (before ++ [.char '\n']) after := by
  intro u v hWhole hu hv hEnds _
  rcases exists_of_suffix_concat hu hEnds with ⟨u', rfl, _⟩
  have hRow :
      u' ++ .char '\n' :: v =
        [.char '^', .char 'F', .char 'S', .char '\n'] := by
    simpa [Text.ofString] using hWhole
  rcases u' with _ | ⟨a, _ | ⟨b, _ | ⟨c, u'⟩⟩⟩
  · simp at hRow
  · simp at hRow
  · simp at hRow
  · cases u' with
    | nil => simp [hv] at hRow
    | cons d u' => simp at hRow

/- A place after one character that begins no end of a line. -/
theorem IsApart.step
    {before rest : Text}
    {c : CodePoint}
    (hApart : IsApart before (c :: rest))
    (hOther : ¬ Text.ofString "^FS\n" <+: c :: rest) :
    IsApart (before ++ [c]) rest := by
  intro u v hWhole hu hv hEnds hStarts
  rcases exists_of_suffix_concat hu hEnds with ⟨u', rfl, hEnds'⟩
  have hStarts' : c :: v <+: c :: rest :=
    (List.prefix_cons_inj c).mpr hStarts
  rw [List.append_assoc, List.singleton_append] at hWhole
  rcases u' with _ | ⟨a, u'⟩
  · exact hOther (hWhole ▸ hStarts')
  · exact hApart (a :: u') (c :: v) hWhole (List.cons_ne_nil a u')
      (List.cons_ne_nil c v) hEnds' hStarts'

theorem WithoutJoints.keep_of_ne
    {before rest left : Text}
    {c : CodePoint}
    (hOther : c ≠ .char '\n')
    (hRest : WithoutJoints (before ++ [c]) rest left) :
    WithoutJoints before (c :: rest) (c :: left) :=
  .keep (fun hSame => absurd hSame hOther) hRest

/- An end of a field stays, whatever comes of the text behind. -/
theorem WithoutJoints.field
    {before rest left : Text}
    (hRest : WithoutJoints (before ++ "^FS") rest left) :
    WithoutJoints before ("^FS" ++ rest) ("^FS" ++ left) := by
  have hMark :
      Text.ofString "^FS" =
        [.char '^', .char 'F', .char 'S'] := rfl
  rw [hMark] at hRest ⊢
  apply keep_of_ne (by decide)
  apply keep_of_ne (by decide)
  apply keep_of_ne (by decide)
  simpa using hRest

/- Fields are joined at the joints and nowhere else. -/
theorem withoutJoints_joinFields
    (code : Text) :
    WithoutJoints [] code (joinFields code) := by
  have hBehind :
      ∀ before, IsApart before code →
        WithoutJoints before code (joinFields code) := by
    fun_induction joinFields code with
    | case1 cs hStarts ih =>
        intro before _
        refine WithoutJoints.field (.drop ⟨?_, ?_⟩ ?_)
        · exact List.suffix_append before _
        · exact startsTextField_iff.mp hStarts
        · exact ih _ (isApart_newline _ cs)
    | case2 cs hNone ih =>
        intro before _
        refine WithoutJoints.field
          (.keep ?_ (ih _ (isApart_newline _ cs)))
        intro _ hJoint
        exact hNone (startsTextField_iff.mpr hJoint.2)
    | case3 c cs hOther ih =>
        intro before hApart
        have hNoEnd : ¬ Text.ofString "^FS\n" <+: c :: cs := by
          rintro ⟨rest, hRest⟩
          obtain ⟨rfl, rfl⟩ := List.cons.inj hRest
          exact hOther rest rfl rfl
        refine .keep ?_ (ih _ (hApart.step hNoEnd))
        rintro rfl hJoint
        exact hApart "^FS" "\n" rfl (List.cons_ne_nil _ _)
          (List.cons_ne_nil _ _) hJoint.1 ⟨cs, rfl⟩
    | case4 =>
        intro before _
        exact .nil before
  exact hBehind [] (isApart_nil code)

------------------------------------------------------------
-- Repeated Origins
------------------------------------------------------------

/- An origin that the next line begins with, and the rest. -/
def Repeated
    (s o rest : Text) :
    Prop :=
  IsOrigin o ∧ s = o ++ .char '\n' :: (o ++ rest)

theorem repeatedOrigin?_eq_some_iff
    {s o : Text} :
    repeatedOrigin? s = some o ↔ ∃ rest, Repeated s o rest := by
  constructor
  · intro hRepeated
    unfold repeatedOrigin? at hRepeated
    split at hRepeated
    · rename_i o' behind hOrigin
      split_ifs at hRepeated with hStarts
      obtain rfl := Option.some.inj hRepeated
      rcases origin?_eq_some hOrigin with ⟨hIs, hText⟩
      rcases List.isPrefixOf_iff_prefix.mp hStarts with
        ⟨rest, rfl⟩
      exact ⟨rest, hIs, hText⟩
    · cases hRepeated
  · rintro ⟨rest, hOrigin, rfl⟩
    have hEnd : EndsDigits (.char '\n' :: (o ++ rest)) :=
      endsDigits_cons (by decide +kernel) _
    have hStarts : o.isPrefixOf (o ++ rest) = true :=
      List.isPrefixOf_iff_prefix.mpr (List.prefix_append o rest)
    rw [repeatedOrigin?, origin?_append hOrigin hEnd]
    exact if_pos hStarts

/- The characters that a collapsed pair has used up are skipped. -/
theorem passed_collapse_drop
    (skip : Nat)
    (code : Text) :
    Passed Repeated (code.drop skip) (collapse skip code) := by
  fun_induction collapse skip code with
  | case1 skip =>
      rw [List.drop_nil]
      exact .nil
  | case2 skip c cs ih => exact ih
  | case3 c cs o hRepeated ih =>
      rcases repeatedOrigin?_eq_some_iff.mp hRepeated with
        ⟨rest, hOrigin, hText⟩
      have hRest :
          cs.drop (2 * o.length) = rest := by
        have hTwice :
            2 * o.length + 1 =
              (o ++ .char '\n' :: o).length := by
          rw [List.length_append, List.length_cons]
          omega
        rw [← List.drop_succ_cons, hText, hTwice,
          ← List.cons_append, ← List.append_assoc,
          List.drop_left]
      rw [hRest] at ih
      exact .apply ⟨hOrigin, hText⟩ ih
  | case4 c cs hNone ih =>
      refine .keep (fun o rest hRepeated => ?_) ih
      rw [repeatedOrigin?_eq_some_iff.mpr ⟨rest, hRepeated⟩]
        at hNone
      cases hNone

theorem passed_collapse
    (code : Text) :
    Passed Repeated code (collapse 0 code) :=
  passed_collapse_drop 0 code

theorem collapse_eq_self
    {code : Text}
    (hOnce :
      ∀ s, s <:+ code → ∀ o rest, ¬ Repeated s o rest) :
    collapse 0 code = code :=
  (passed_collapse code).eq_self hOnce

section IsOrigin

variable {o line : Text}

theorem IsOrigin.isLine
    (hOrigin : IsOrigin o) :
    o.IsLine := by
  have hDigits :
      ∀ s, IsDigits s → s.IsLine := by
    intro s hs hNewline
    have hDigit := hs.2 _ hNewline
    exact absurd hDigit (by decide +kernel)
  rcases hOrigin with ⟨x, y, hx, hy, rfl⟩
  simp only [Text.isLine_append, hDigits x hx, hDigits y hy]
  decide

theorem IsOrigin.starts
    (hOrigin : IsOrigin o) :
    Text.ofString "^FO" <+: o := by
  rcases hOrigin with ⟨x, y, _, _, rfl⟩
  simp only [List.append_assoc]
  exact List.prefix_append _ _

theorem IsOrigin.comma_mem
    (hOrigin : IsOrigin o) :
    .char ',' ∈ o := by
  rcases hOrigin with ⟨x, y, _, _, rfl⟩
  simp [Text.ofString]

/- A line that ends in an origin ends in a digit. -/
theorem IsOrigin.digit_of_suffix
    (hOrigin : IsOrigin o)
    (hEnds : o <:+ line) :
    ∃ c, line.getLast? = some c ∧
      Text.isDecimalDigit c = true := by
  rcases hOrigin with ⟨x, y, _, ⟨hSome, hDigits⟩, rfl⟩
  rcases hEnds with ⟨before, rfl⟩
  refine ⟨y.getLast hSome, ?_, hDigits _ (List.getLast_mem hSome)⟩
  rw [List.getLast?_append, List.getLast?_append,
    List.getLast?_eq_some_getLast hSome]
  rfl

end IsOrigin

/-
  Lines are left as they are when no origin at the end of one is
  the start of another.
-/
theorem collapse_ended
    {lines : List Text}
    (hLines : ∀ line ∈ lines, line.IsLine)
    (hOnce :
      ∀ line ∈ lines, ∀ next ∈ lines, ∀ o, IsOrigin o →
        o <:+ line → ¬ o <+: next) :
    collapse 0 (Text.ended lines) = Text.ended lines := by
  apply collapse_eq_self
  rintro _ ⟨before, hText⟩ o rest ⟨hOrigin, rfl⟩
  rw [← List.append_assoc] at hText
  rcases Text.exists_line_of_ended hLines hOrigin.isLine hText with
    ⟨line, hLine, hEnds, later, hAmong, hBehind⟩
  have hSome : o ≠ [] :=
    List.ne_nil_of_mem hOrigin.comma_mem
  rcases Text.exists_prefix_of_ended hSome hOrigin.isLine
      ⟨rest, hBehind⟩ with ⟨next, hNext, hStarts⟩
  exact hOnce line hLine next (hAmong next hNext) o hOrigin hEnds
    hStarts

end Optimizer

end LabelPress

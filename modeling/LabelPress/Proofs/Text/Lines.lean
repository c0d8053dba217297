import LabelPress.Proofs.Text.Numerals

/-
  Texts of one line, and texts of many.

  A text of lines is made of lines without newlines, each with
  one newline behind it.  What stands in it right before a newline
  is the end of a line, and the next line comes after it.

  Main declarations:
    * `Text.IsLine`
    * `Text.ended`
    * `Text.exists_line_of_ended`
-/

namespace LabelPress

namespace Text

------------------------------------------------------------
-- Lines
------------------------------------------------------------

/- Whether a text has no newline in it. -/
def IsLine
    (t : Text) :
    Prop :=
  .char '\n' ∉ t

instance
    (t : Text) :
    Decidable t.IsLine :=
  inferInstanceAs (Decidable (CodePoint.char '\n' ∉ t))

@[simp] theorem isLine_nil :
    IsLine [] :=
  List.not_mem_nil

@[simp] theorem isLine_cons
    {c : CodePoint}
    {t : Text} :
    IsLine (c :: t) ↔ c ≠ .char '\n' ∧ t.IsLine := by
  rw [IsLine, List.mem_cons, not_or, eq_comm]
  rfl

@[simp] theorem isLine_append
    {s t : Text} :
    IsLine (s ++ t) ↔ s.IsLine ∧ t.IsLine := by
  rw [IsLine, List.mem_append, not_or]
  rfl

@[simp] theorem isLine_numeral
    (n : Int) :
    IsLine (ofString (toString n)) :=
  notMem_numeral rfl

@[simp] theorem isLine_natNumeral
    (n : Nat) :
    IsLine (ofString (toString n)) :=
  isLine_numeral n

@[simp] theorem isLine_digits
    (n : Nat) :
    IsLine (digits 10 n) := by
  intro hMember
  have hNumeral := isNumeral_of_mem_digits hMember
  exact absurd hNumeral (by decide)

/- A line that starts a text is in what comes before a newline. -/
theorem IsLine.prefix_of_prefix
    {line before after : Text}
    (hLine : line.IsLine)
    (hStarts : line <+: before ++ .char '\n' :: after) :
    line <+: before := by
  rcases List.prefix_or_prefix_of_prefix hStarts
      (List.prefix_append before _) with hShort | ⟨s, rfl⟩
  · exact hShort
  · have hBehind := (List.prefix_append_right_inj before).mp
      hStarts
    cases s with
    | nil => simp
    | cons c s =>
        obtain rfl := (List.cons_prefix_cons.mp hBehind).1
        exact absurd
          (List.mem_append_right before List.mem_cons_self) hLine

theorem isLine_intercalate
    {separator : Text}
    {texts : List Text}
    (hSeparator : separator.IsLine)
    (hTexts : ∀ t ∈ texts, t.IsLine) :
    (intercalate separator texts).IsLine := by
  induction texts with
  | nil => exact isLine_nil
  | cons t texts ih =>
      rcases List.forall_mem_cons.mp hTexts with ⟨hFirst, hRest⟩
      cases texts with
      | nil =>
          simpa [intercalate, List.intercalate] using hFirst
      | cons t' texts =>
          have hLater := ih hRest
          rw [intercalate, List.intercalate_cons_cons]
          simp only [isLine_append]
          exact ⟨⟨hFirst, hSeparator⟩, hLater⟩

/- What stands before the last of some lines is a line. -/
theorem exists_lead_of_intercalate
    {separator : Text}
    {front : List Text}
    (hSeparator : separator.IsLine)
    (hFront : ∀ t ∈ front, t.IsLine) :
    ∃ lead : Text, lead.IsLine ∧
      ∀ last, intercalate separator (front ++ [last]) =
        lead ++ last := by
  induction front with
  | nil =>
      refine ⟨[], isLine_nil, fun last => ?_⟩
      simp [intercalate, List.intercalate]
  | cons t front ih =>
      rcases List.forall_mem_cons.mp hFront with ⟨hFirst, hRest⟩
      rcases ih hRest with ⟨lead, hLead, hLater⟩
      refine ⟨t ++ separator ++ lead, ?_, fun last => ?_⟩
      · simp only [isLine_append]
        exact ⟨⟨hFirst, hSeparator⟩, hLead⟩
      · rw [List.cons_append, intercalate,
          List.intercalate_cons_of_ne_nil (by simp),
          List.append_assoc (t ++ separator), ← hLater last]
        rfl

------------------------------------------------------------
-- Texts of Lines
------------------------------------------------------------

/- Lines with a newline behind each. -/
def ended
    (lines : List Text) :
    Text :=
  lines.flatMap fun line => line ++ [.char '\n']

variable {lines : List Text}

theorem ended_cons
    (line : Text) :
    ended (line :: lines) =
      line ++ .char '\n' :: ended lines := by
  rw [ended, List.flatMap_cons, List.append_assoc]
  rfl

/- A line at the end of a text is behind its last newline. -/
theorem suffix_of_newline_before
    {before t line rest : Text}
    (ht : t.IsLine)
    (hText : before ++ t = line ++ .char '\n' :: rest) :
    t <:+ rest := by
  have hEnds : t <:+ line ++ .char '\n' :: rest :=
    ⟨before, hText⟩
  rcases List.suffix_or_suffix_of_suffix hEnds
      (List.suffix_append line _) with hShort | hLong
  · rcases List.suffix_cons_iff.mp hShort with rfl | hBehind
    · exact absurd List.mem_cons_self ht
    · exact hBehind
  · exact absurd (hLong.subset List.mem_cons_self) ht

/- A newline after a line is its end or comes later. -/
theorem split_at_newline
    {u line rest later : Text}
    (hLine : line.IsLine)
    (hText :
      u ++ .char '\n' :: rest = line ++ .char '\n' :: later) :
    (u = line ∧ rest = later) ∨
      ∃ middle, u = line ++ .char '\n' :: middle ∧
        later = middle ++ .char '\n' :: rest := by
  rcases List.append_eq_append_iff.mp hText with
    ⟨middle, hFirst, hSecond⟩ | ⟨middle, hFirst, hSecond⟩
  · cases middle with
    | nil =>
        rw [List.append_nil] at hFirst
        exact .inl ⟨hFirst.symm, List.tail_eq_of_cons_eq hSecond⟩
    | cons c middle =>
        obtain rfl := List.head_eq_of_cons_eq hSecond
        rw [hFirst] at hLine
        exact absurd
          (List.mem_append_right u List.mem_cons_self) hLine
  · cases middle with
    | nil =>
        rw [List.append_nil] at hFirst
        exact .inl
          ⟨hFirst, (List.tail_eq_of_cons_eq hSecond).symm⟩
    | cons c middle =>
        obtain rfl := List.head_eq_of_cons_eq hSecond
        exact .inr
          ⟨middle, hFirst, List.tail_eq_of_cons_eq hSecond⟩

/-
  A newline in a text of lines stands between the end of one
  line and the lines after it.
-/
theorem exists_line_of_ended
    {before t rest : Text}
    (hLines : ∀ line ∈ lines, line.IsLine)
    (ht : t.IsLine)
    (hText : before ++ t ++ .char '\n' :: rest = ended lines) :
    ∃ line ∈ lines, t <:+ line ∧
      ∃ later, (∀ l ∈ later, l ∈ lines) ∧
        rest = ended later := by
  induction lines generalizing before with
  | nil => simp [ended] at hText
  | cons first lines ih =>
      rw [ended_cons] at hText
      rcases List.forall_mem_cons.mp hLines with ⟨hFirst, hLater⟩
      rcases split_at_newline hFirst hText with
        ⟨hEnd, hRest⟩ | ⟨middle, hBefore, hBehind⟩
      · exact ⟨first, List.mem_cons_self, ⟨before, hEnd⟩,
          lines, fun l hl => List.mem_cons_of_mem first hl,
          hRest⟩
      · rcases suffix_of_newline_before ht hBefore with
          ⟨between, hBetween⟩
        rw [← hBetween] at hBehind
        rcases ih hLater hBehind.symm with
          ⟨line, hMember, hEnds, later, hAmong, hRest⟩
        exact ⟨line, List.mem_cons_of_mem first hMember, hEnds,
          later,
          fun l hl => List.mem_cons_of_mem first (hAmong l hl),
          hRest⟩

/- A line that starts a text of lines starts its first line. -/
theorem exists_prefix_of_ended
    {t : Text}
    (hSome : t ≠ [])
    (ht : t.IsLine)
    (hStarts : t <+: ended lines) :
    ∃ line ∈ lines, t <+: line := by
  cases lines with
  | nil => exact absurd (List.prefix_nil.mp hStarts) hSome
  | cons line lines =>
      refine ⟨line, List.mem_cons_self, ?_⟩
      rw [ended_cons] at hStarts
      exact ht.prefix_of_prefix hStarts

end Text

end LabelPress

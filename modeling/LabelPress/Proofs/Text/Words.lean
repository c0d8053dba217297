import LabelPress.Proofs.Text.Parts

/-
  Words that stand in a text.

  The words among some are met in a text from left to right.  A
  character that stands inside none of them cuts the text into two
  whose words are met one after the other, so that the words of
  lines, and of parts with a mark in front of each, are those of
  the lines and parts.  A word that is met once has one place.

  Main declarations:
    * `Text.wordsIn`, `Text.wordsIn_append_cons`
    * `Text.wordsIn_ended`
    * `Text.marked`, `Text.wordsIn_marked`
    * `Text.eq_of_word_once`
-/

namespace LabelPress

namespace Text

variable {words : List Text}

------------------------------------------------------------
-- Words
------------------------------------------------------------

/- The words among some that a text starts with. -/
def wordsAt
    (words : List Text)
    (t : Text) :
    List Text :=
  words.filter fun w => w.isPrefixOf t

/- The words among some that stand in a text, left to right. -/
def wordsIn
    (words : List Text) :
    Text → List Text
  | [] => []
  | c :: cs => wordsAt words (c :: cs) ++ wordsIn words cs

/- Whether words start with a mark and have it nowhere else. -/
def StartWith
    (mark : CodePoint)
    (words : List Text) :
    Prop :=
  ∀ w ∈ words, w.head? = some mark ∧ mark ∉ w.tail

instance
    (mark : CodePoint)
    (words : List Text) :
    Decidable (StartWith mark words) :=
  inferInstanceAs
    (Decidable (∀ w ∈ words, w.head? = some mark ∧ mark ∉ w.tail))

/- What a character is not in is a start of what is before it. -/
theorem prefix_append_cons_iff
    {w s t : Text}
    {c : CodePoint}
    (hNone : c ∉ w) :
    w <+: s ++ c :: t ↔ w <+: s := by
  constructor
  · intro hStarts
    rcases List.prefix_or_prefix_of_prefix hStarts
        (List.prefix_append s _) with hShort | ⟨rest, rfl⟩
    · exact hShort
    · cases rest with
      | nil => exact ⟨[], by simp⟩
      | cons d rest =>
          have hBehind :=
            (List.prefix_append_right_inj s).mp hStarts
          obtain rfl := (List.cons_prefix_cons.mp hBehind).1
          exact absurd
            (List.mem_append_right s List.mem_cons_self) hNone
  · exact fun hStarts => hStarts.trans (List.prefix_append s _)

/- A character that is inside no word parts the words. -/
theorem wordsIn_append_cons
    {d : CodePoint}
    (hApart : ∀ w ∈ words, w ≠ [] ∧ d ∉ w.tail)
    (s t : Text) :
    wordsIn words (s ++ d :: t) =
      wordsIn words s ++ wordsIn words (d :: t) := by
  induction s with
  | nil => rfl
  | cons c s ih =>
      have hStart :
          wordsAt words (c :: (s ++ d :: t)) =
            wordsAt words (c :: s) := by
        apply List.filter_congr
        intro w hWord
        rcases hApart w hWord with ⟨hSome, hNone⟩
        cases w with
        | nil => exact absurd rfl hSome
        | cons c' w =>
            rw [List.tail_cons] at hNone
            rw [Bool.eq_iff_iff, List.isPrefixOf_iff_prefix,
              List.isPrefixOf_iff_prefix, List.cons_prefix_cons,
              List.cons_prefix_cons, prefix_append_cons_iff hNone]
      rw [List.cons_append, wordsIn, wordsIn, hStart, ih,
        List.append_assoc]

theorem wordsAt_of_head_ne
    {c : CodePoint}
    {t : Text}
    (hOther : ∀ w ∈ words, w ≠ [] ∧ w.head? ≠ some c) :
    wordsAt words (c :: t) = [] := by
  rw [wordsAt, List.filter_eq_nil_iff]
  intro w hWord hStarts
  rcases hOther w hWord with ⟨hSome, hHead⟩
  cases w with
  | nil => exact hSome rfl
  | cons d w =>
      have hBoth := List.isPrefixOf_iff_prefix.mp hStarts
      obtain rfl := (List.cons_prefix_cons.mp hBoth).1
      exact hHead rfl

/- A text without the mark that all words start with has none. -/
theorem wordsIn_of_notMem
    {mark : CodePoint}
    {t : Text}
    (hWords : StartWith mark words)
    (hNone : mark ∉ t) :
    wordsIn words t = [] := by
  induction t with
  | nil => rfl
  | cons c t ih =>
      rw [List.mem_cons, not_or] at hNone
      have hOther :
          ∀ w ∈ words, w ≠ [] ∧ w.head? ≠ some c := by
        intro w hWord
        have hHead := (hWords w hWord).1
        refine ⟨List.ne_nil_of_mem (List.mem_of_head? hHead), ?_⟩
        rw [hHead]
        exact fun hSame => hNone.1 (Option.some.inj hSame)
      rw [wordsIn, wordsAt_of_head_ne hOther, ih hNone.2]
      rfl

/- The words of lines are those of each line. -/
theorem wordsIn_ended
    (hWords : ∀ w ∈ words, w ≠ [] ∧ w.IsLine)
    (lines : List Text) :
    wordsIn words (ended lines) =
      lines.flatMap (wordsIn words) := by
  have hApart :
      ∀ w ∈ words, w ≠ [] ∧ CodePoint.char '\n' ∉ w.tail := by
    intro w hWord
    rcases hWords w hWord with ⟨hSome, hLine⟩
    exact ⟨hSome, fun hMember => hLine (List.mem_of_mem_tail hMember)⟩
  have hOther :
      ∀ w ∈ words, w ≠ [] ∧ w.head? ≠ some (.char '\n') := by
    intro w hWord
    rcases hWords w hWord with ⟨hSome, hLine⟩
    exact ⟨hSome, fun hHead => hLine (List.mem_of_head? hHead)⟩
  induction lines with
  | nil => rfl
  | cons line lines ih =>
      rw [ended_cons, wordsIn_append_cons hApart, wordsIn,
        wordsAt_of_head_ne hOther, ih, List.flatMap_cons]
      rfl

------------------------------------------------------------
-- Marked Parts
------------------------------------------------------------

/- Parts with a mark in front of each. -/
def marked
    (mark : CodePoint)
    (parts : List Text) :
    Text :=
  parts.flatMap fun part => mark :: part

section Marked

variable {mark : CodePoint}
variable {parts : List Text}

theorem partsBetween_marked
    (hParts : ∀ part ∈ parts, mark ∉ part) :
    partsBetween mark (marked mark parts) = [] :: parts := by
  induction parts with
  | nil => rfl
  | cons part parts ih =>
      rcases List.forall_mem_cons.mp hParts with ⟨hFirst, hRest⟩
      have hSplit :=
        partsBetween_append_left hFirst (ih hRest)
      rw [List.append_nil] at hSplit
      change
        partsBetween mark ([] ++ mark :: (part ++ marked mark parts)) =
          _
      rw [partsBetween_append_cons, hSplit]
      rfl

/- The words of marked parts are met at the marks. -/
theorem wordsIn_marked
    (hWords : StartWith mark words)
    (hParts : ∀ part ∈ parts, mark ∉ part) :
    wordsIn words (marked mark parts) =
      parts.flatMap fun part => wordsAt words (mark :: part) := by
  have hApart : ∀ w ∈ words, w ≠ [] ∧ mark ∉ w.tail := by
    intro w hWord
    rcases hWords w hWord with ⟨hHead, hTail⟩
    exact ⟨List.ne_nil_of_mem (List.mem_of_head? hHead), hTail⟩
  have hAppend :
      ∀ (s : Text) (rest : List Text),
        wordsIn words (s ++ marked mark rest) =
          wordsIn words s ++ wordsIn words (marked mark rest) := by
    intro s rest
    cases rest with
    | nil => simp [marked, wordsIn]
    | cons part rest => exact wordsIn_append_cons hApart s _
  induction parts with
  | nil => rfl
  | cons part parts ih =>
      rcases List.forall_mem_cons.mp hParts with ⟨hFirst, hRest⟩
      have hPart :
          wordsIn words (mark :: part) =
            wordsAt words (mark :: part) := by
        rw [wordsIn, wordsIn_of_notMem hWords hFirst,
          List.append_nil]
      have hFront := hAppend (mark :: part) parts
      rw [hPart, ih hRest] at hFront
      rw [List.flatMap_cons]
      exact hFront

end Marked

------------------------------------------------------------
-- Places of Words
------------------------------------------------------------

variable {w : Text}

theorem mem_wordsIn
    (hWord : w ∈ words)
    (hSome : w ≠ [])
    (before after : Text) :
    w ∈ wordsIn words (before ++ w ++ after) := by
  induction before with
  | nil =>
      cases w with
      | nil => exact absurd rfl hSome
      | cons c w =>
          apply List.mem_append_left
          refine List.mem_filter.mpr ⟨hWord, ?_⟩
          exact List.isPrefixOf_iff_prefix.mpr
            (List.prefix_append _ _)
  | cons c before ih =>
      exact List.mem_append_right _ ih

/- A word that is met once in a text stands at one place. -/
theorem eq_of_word_once
    {t before after before' after' : Text}
    (hWord : w ∈ words)
    (hSome : w ≠ [])
    (hOnce : (wordsIn words t).count w ≤ 1)
    (hText : t = before ++ w ++ after)
    (hText' : t = before' ++ w ++ after') :
    before = before' ∧ after = after' := by
  -- a first place at the start and a second one behind it
  have hTwice :
      ∀ (c : CodePoint) (u behind middle last : Text),
        c :: u = w ++ behind → u = middle ++ w ++ last →
          1 < (wordsIn words (c :: u)).count w := by
    intro c u behind middle last hStart hLater
    have hAt : w ∈ wordsAt words (c :: u) := by
      refine List.mem_filter.mpr ⟨hWord, ?_⟩
      rw [hStart]
      exact List.isPrefixOf_iff_prefix.mpr
        (List.prefix_append _ _)
    have hIn : w ∈ wordsIn words u := by
      rw [hLater]
      exact mem_wordsIn hWord hSome middle last
    have hFirst := List.count_pos_iff.mpr hAt
    have hSecond := List.count_pos_iff.mpr hIn
    rw [wordsIn, List.count_append]
    omega
  induction t generalizing before before' with
  | nil =>
      have hNone := List.append_eq_nil_iff.mp hText.symm
      exact absurd (List.append_eq_nil_iff.mp hNone.1).2 hSome
  | cons c t ih =>
      cases before with
      | nil =>
          cases before' with
          | nil =>
              have hSame := hText.symm.trans hText'
              exact ⟨rfl, List.append_cancel_left hSame⟩
          | cons d before' =>
              have hMany := hTwice c t _ _ _ hText
                (List.tail_eq_of_cons_eq hText')
              omega
      | cons d before =>
          cases before' with
          | nil =>
              have hMany := hTwice c t _ _ _ hText'
                (List.tail_eq_of_cons_eq hText)
              omega
          | cons d' before' =>
              obtain rfl := List.head_eq_of_cons_eq hText
              obtain rfl := List.head_eq_of_cons_eq hText'
              rw [wordsIn, List.count_append] at hOnce
              rcases ih (by omega)
                  (List.tail_eq_of_cons_eq hText)
                  (List.tail_eq_of_cons_eq hText') with
                ⟨rfl, rfl⟩
              exact ⟨rfl, rfl⟩

end Text

end LabelPress

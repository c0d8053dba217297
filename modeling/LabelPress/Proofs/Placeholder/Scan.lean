import LabelPress.Variable.Placeholder
import Mathlib.Data.List.Infix

/-
  The cut of a text into pieces.

  A text opens a placeholder when it starts with two opening
  braces, a content that is not empty and holds no newline, and
  two closing braces.  The pieces of a text are the ones that a
  scan from left to right takes, and each scanned row of pieces
  is the cut of its own text.

  Main declarations:
    * `Opens`
    * `placeholderAt?_eq_some_iff`, `placeholderAt?_eq_none_iff`
    * `Scanned`, with `scanned_pieces` and `Scanned.pieces_eq`
    * `texts_pieces`
    * `hasOpening_iff`
-/

namespace LabelPress

------------------------------------------------------------
-- Braces
------------------------------------------------------------

/- The mark that opens a placeholder. -/
def openingBraces :
    Text :=
  ['\x7b', '\x7b']

/- The mark that closes a placeholder. -/
def closingBraces :
    Text :=
  ['\x7d', '\x7d']

/-
  Whether a text starts with a placeholder of some content, not
  necessarily the shortest one.
-/
structure Opens
    (content : Text)
    (s : Text) :
    Prop where
  nonempty : content ≠ []
  oneLine : CodePoint.char '\n' ∉ content
  begins : openingBraces ++ content ++ closingBraces <+: s

theorem Placeholder.text_ofContent
    (content : Text) :
    (Placeholder.ofContent content).text =
      openingBraces ++ content ++ closingBraces :=
  rfl

/- A text that starts one way goes on with anything. -/
theorem Opens.append
    {content s : Text}
    (hOpens : Opens content s)
    (after : Text) :
    Opens content (s ++ after) where
  nonempty := hOpens.nonempty
  oneLine := hOpens.oneLine
  begins :=
    hOpens.begins.trans (List.prefix_append s after)

------------------------------------------------------------
-- Contents
------------------------------------------------------------

theorem content?_cons
    (c : CodePoint)
    (cs : Text) :
    content? (c :: cs) =
      if c = .char '\n' then none
      else if closingBraces <+: cs then some [c]
      else (content? cs).map (c :: ·) := by
  by_cases hClose : closingBraces <+: cs
  · rcases hClose with ⟨rest, rfl⟩
    simp [closingBraces, content?]
  · rw [content?, if_neg hClose]
    intro rest hCs
    exact hClose ⟨rest, hCs.symm⟩

/- A content that is found stands there as a content should. -/
theorem content?_sound
    {s content : Text}
    (hContent : content? s = some content) :
    content ≠ [] ∧ CodePoint.char '\n' ∉ content ∧
      content ++ closingBraces <+: s := by
  induction s generalizing content with
  | nil => simp [content?] at hContent
  | cons c cs ih =>
      rw [content?_cons] at hContent
      split_ifs at hContent with hLine hClose
      · obtain rfl : [c] = content :=
          Option.some.inj hContent
        refine ⟨by simp, by simpa [eq_comm] using hLine, ?_⟩
        simpa using hClose
      · rcases Option.map_eq_some_iff.mp hContent with
          ⟨rest, hRest, rfl⟩
        rcases ih hRest with ⟨_, hNoLine, hPrefix⟩
        refine ⟨by simp, ?_, ?_⟩
        · simpa [eq_comm, hNoLine] using hLine
        · simpa using hPrefix

/- Where some content stands, one no longer than it is found. -/
theorem exists_content?_of_prefix
    {s content : Text}
    (hNonempty : content ≠ [])
    (hLine : CodePoint.char '\n' ∉ content)
    (hPrefix : content ++ closingBraces <+: s) :
    ∃ found, content? s = some found ∧
      found.length ≤ content.length := by
  induction content generalizing s with
  | nil => exact absurd rfl hNonempty
  | cons c rest ih =>
      rcases hPrefix with ⟨after, rfl⟩
      rw [List.mem_cons, not_or] at hLine
      simp only [List.cons_append]
      rw [content?_cons, if_neg (Ne.symm hLine.1)]
      split_ifs with hClose
      · exact ⟨[c], rfl, by simp⟩
      · have hRest : rest ≠ [] := by
          rintro rfl
          exact hClose ⟨after, rfl⟩
        rcases ih hRest hLine.2
            (List.prefix_append _ after) with
          ⟨found, hFound, hLength⟩
        refine ⟨c :: found, ?_, by simpa using hLength⟩
        rw [hFound]
        rfl

/- The content that is found depends on nothing behind it. -/
theorem content?_append_closing
    {content after : Text}
    (hContent :
      content? (content ++ closingBraces ++ after) =
        some content)
    (other : Text) :
    content? (content ++ closingBraces ++ other) =
      some content := by
  induction content with
  | nil => exact absurd rfl (content?_sound hContent).1
  | cons c rest ih =>
      simp only [List.cons_append] at hContent ⊢
      rw [content?_cons] at hContent ⊢
      split_ifs at hContent with hLine hClose
      · obtain rfl : [] = rest := by
          simpa using Option.some.inj hContent
        rw [if_neg hLine, if_pos ⟨other, rfl⟩]
      · rcases Option.map_eq_some_iff.mp hContent with
          ⟨found, hFound, hSame⟩
        obtain rfl : found = rest := by simpa using hSame
        have hOpen : ¬ closingBraces <+:
            found ++ closingBraces ++ other := by
          intro hPrefix
          apply hClose
          have hLength :
              closingBraces.length ≤
                (found ++ closingBraces).length := by
            simp
          have hShort :
              closingBraces <+: found ++ closingBraces :=
            List.prefix_of_prefix_length_le hPrefix
              (List.prefix_append _ other) hLength
          exact hShort.trans (List.prefix_append _ after)
        rw [if_neg hLine, if_neg hOpen, ih hFound]
        rfl

------------------------------------------------------------
-- Placeholders at the Start
------------------------------------------------------------

theorem placeholderAt?_opening
    (s : Text) :
    placeholderAt? (openingBraces ++ s) = content? s :=
  rfl

theorem placeholderAt?_of_not_opening
    {s : Text}
    (hOpen : ¬ openingBraces <+: s) :
    placeholderAt? s = none := by
  unfold placeholderAt?
  split
  · rename_i rest
    exact absurd ⟨rest, rfl⟩ hOpen
  · rfl

/- Where one opens, some placeholder is found, no longer. -/
theorem exists_placeholderAt?_of_opens
    {s content : Text}
    (hOpens : Opens content s) :
    ∃ found, placeholderAt? s = some found ∧
      found.length ≤ content.length := by
  rcases hOpens.begins with ⟨after, rfl⟩
  rw [List.append_assoc, List.append_assoc,
    placeholderAt?_opening]
  apply exists_content?_of_prefix hOpens.nonempty
    hOpens.oneLine
  rw [← List.append_assoc]
  exact List.prefix_append _ after

/- A placeholder that is found opens, and none is shorter. -/
theorem opens_of_placeholderAt?
    {s content : Text}
    (hFound : placeholderAt? s = some content) :
    Opens content s ∧
      ∀ other, Opens other s →
        content.length ≤ other.length := by
  by_cases hOpen : openingBraces <+: s
  · rcases hOpen with ⟨rest, rfl⟩
    have hContent : content? rest = some content := by
      rw [← placeholderAt?_opening, hFound]
    rcases content?_sound hContent with
      ⟨hNonempty, hLine, hPrefix⟩
    refine ⟨⟨hNonempty, hLine, ?_⟩, ?_⟩
    · rw [List.append_assoc]
      exact (List.prefix_append_right_inj _).mpr hPrefix
    · intro other hOther
      rcases exists_placeholderAt?_of_opens hOther with
        ⟨found, hSame, hLength⟩
      rw [hFound] at hSame
      rw [Option.some.inj hSame]
      exact hLength
  · rw [placeholderAt?_of_not_opening hOpen] at hFound
    simp at hFound

/- Two contents of one length that open a text are the same. -/
theorem Opens.eq_of_length
    {s content other : Text}
    (hOpens : Opens content s)
    (hOther : Opens other s)
    (hLength : content.length = other.length) :
    content = other := by
  have hSame :
      openingBraces ++ content ++ closingBraces =
        openingBraces ++ other ++ closingBraces := by
    apply List.IsPrefix.eq_of_length
    · apply List.prefix_of_prefix_length_le hOpens.begins
        hOther.begins
      simp [hLength]
    · simp [hLength]
  simpa using hSame

/- A placeholder is found where one opens, the shortest one. -/
theorem placeholderAt?_eq_some_iff
    {s content : Text} :
    placeholderAt? s = some content ↔
      Opens content s ∧
        ∀ other, Opens other s →
          content.length ≤ other.length := by
  constructor
  · exact opens_of_placeholderAt?
  · rintro ⟨hOpens, hShortest⟩
    cases hFound : placeholderAt? s with
    | none =>
        rcases exists_placeholderAt?_of_opens hOpens with
          ⟨found, hSome, _⟩
        rw [hFound] at hSome
        simp at hSome
    | some found =>
        rcases opens_of_placeholderAt? hFound with
          ⟨hOther, hLeast⟩
        have hSame : found.length = content.length :=
          Nat.le_antisymm (hLeast content hOpens)
            (hShortest found hOther)
        exact congrArg some (hOther.eq_of_length hOpens hSame)

/- No placeholder is found where none opens. -/
theorem placeholderAt?_eq_none_iff
    {s : Text} :
    placeholderAt? s = none ↔
      ∀ content, ¬ Opens content s := by
  constructor
  · intro hNone content hOpens
    rcases exists_placeholderAt?_of_opens hOpens with
      ⟨found, hFound, _⟩
    rw [hNone] at hFound
    simp at hFound
  · intro hNone
    cases hFound : placeholderAt? s with
    | none => rfl
    | some content =>
        exact absurd (opens_of_placeholderAt? hFound).1
          (hNone content)

------------------------------------------------------------
-- Pieces
------------------------------------------------------------

/- The text of pieces in a row. -/
def Piece.texts
    (ps : List Piece) :
    Text :=
  ps.flatMap Piece.text

@[simp] theorem Piece.texts_nil :
    Piece.texts [] = [] :=
  rfl

@[simp] theorem Piece.texts_literal
    (c : CodePoint)
    (ps : List Piece) :
    Piece.texts (.literal c :: ps) = c :: Piece.texts ps :=
  rfl

@[simp] theorem Piece.texts_placeholder
    (p : Placeholder)
    (ps : List Piece) :
    Piece.texts (.placeholder p :: ps) =
      p.text ++ Piece.texts ps :=
  rfl

@[simp] theorem Piece.texts_append
    (ps qs : List Piece) :
    Piece.texts (ps ++ qs) =
      Piece.texts ps ++ Piece.texts qs :=
  List.flatMap_append

@[simp] theorem Piece.texts_literals
    (literal : Text) :
    Piece.texts (literal.map Piece.literal) = literal := by
  induction literal with
  | nil => rfl
  | cons c cs ih => rw [List.map_cons, texts_literal, ih]

/- What a placeholder covers is passed over. -/
theorem piecesFrom_eq_drop
    (skip : Nat)
    (s : Text) :
    piecesFrom skip s = pieces (s.drop skip) := by
  induction s generalizing skip with
  | nil => simp [pieces, piecesFrom]
  | cons c cs ih =>
      cases skip with
      | zero => rfl
      | succ skip =>
          rw [piecesFrom, ih, List.drop_succ_cons]

theorem pieces_literal
    {c : CodePoint}
    {cs : Text}
    (hNone : placeholderAt? (c :: cs) = none) :
    pieces (c :: cs) = .literal c :: pieces cs := by
  rw [pieces, piecesFrom, hNone]
  rfl

theorem pieces_placeholder
    {content rest : Text}
    (hFound :
      placeholderAt?
          ((Placeholder.ofContent content).text ++ rest) =
        some content) :
    pieces ((Placeholder.ofContent content).text ++ rest) =
      .placeholder (.ofContent content) :: pieces rest := by
  have hStart :
      (Placeholder.ofContent content).text ++ rest =
        .char '\x7b' ::
          (.char '\x7b' :: content ++ closingBraces ++ rest) := by
    simp [Placeholder.text_ofContent, openingBraces]
  rw [hStart] at hFound ⊢
  rw [pieces, piecesFrom, hFound]
  simp only [piecesFrom_eq_drop]
  congr 2
  simp [closingBraces, List.drop_append]

/-
  Rows of pieces as a scan takes them: a literal stands where no
  placeholder is found, and a placeholder where it is.
-/
inductive Scanned :
    List Piece → Prop where
  | nil : Scanned []
  | literal
      {c : CodePoint}
      {ps : List Piece}
      (hNone : placeholderAt? (c :: Piece.texts ps) = none)
      (hRest : Scanned ps) :
      Scanned (.literal c :: ps)
  | placeholder
      {content : Text}
      {ps : List Piece}
      (hFound :
        placeholderAt?
            ((Placeholder.ofContent content).text ++
              Piece.texts ps) =
          some content)
      (hRest : Scanned ps) :
      Scanned (.placeholder (.ofContent content) :: ps)

/- A scanned row is the cut of its text. -/
theorem Scanned.pieces_eq
    {ps : List Piece}
    (hScanned : Scanned ps) :
    pieces (Piece.texts ps) = ps := by
  induction hScanned with
  | nil => rfl
  | literal hNone hRest ih =>
      rw [Piece.texts_literal, pieces_literal hNone, ih]
  | placeholder hFound hRest ih =>
      rw [Piece.texts_placeholder,
        pieces_placeholder hFound, ih]

/- Every text is the text of a scanned row. -/
theorem exists_scanned
    (t : Text) :
    ∃ ps, Scanned ps ∧ Piece.texts ps = t := by
  induction hLength : t.length using Nat.strong_induction_on
    generalizing t with
  | _ n ih =>
      cases t with
      | nil => exact ⟨[], .nil, rfl⟩
      | cons c cs =>
          cases hAt : placeholderAt? (c :: cs) with
          | none =>
              rcases ih cs.length (by simp [← hLength]) cs
                  rfl with
                ⟨ps, hScanned, rfl⟩
              exact
                ⟨.literal c :: ps, .literal hAt hScanned, rfl⟩
          | some content =>
              have hOpens :=
                (placeholderAt?_eq_some_iff.mp hAt).1
              rcases hOpens.begins with ⟨rest, hRest⟩
              have hShorter : rest.length < n := by
                have hBoth := congrArg List.length hRest
                simp [openingBraces, closingBraces] at hBoth
                simp only [List.length_cons] at hLength
                omega
              rcases ih rest.length hShorter rest rfl with
                ⟨ps, hScanned, rfl⟩
              refine ⟨.placeholder (.ofContent content) :: ps,
                .placeholder ?_ hScanned, ?_⟩
              · rw [Placeholder.text_ofContent, hRest, hAt]
              · rw [Piece.texts_placeholder,
                  Placeholder.text_ofContent, hRest]

theorem scanned_pieces
    (t : Text) :
    Scanned (pieces t) := by
  rcases exists_scanned t with ⟨ps, hScanned, rfl⟩
  rw [hScanned.pieces_eq]
  exact hScanned

/- Cutting a text loses nothing. -/
@[simp] theorem texts_pieces
    (t : Text) :
    Piece.texts (pieces t) = t := by
  rcases exists_scanned t with ⟨ps, hScanned, rfl⟩
  rw [hScanned.pieces_eq]

------------------------------------------------------------
-- Texts without Opening Braces
------------------------------------------------------------

theorem hasOpening_cons
    (c : CodePoint)
    (cs : Text) :
    hasOpening (c :: cs) = true ↔
      openingBraces <+: c :: cs ∨ hasOpening cs = true := by
  by_cases hOpen : openingBraces <+: c :: cs
  · rcases hOpen with ⟨rest, hRest⟩
    rw [← hRest]
    simp [openingBraces, hasOpening]
  · rw [hasOpening]
    · simp [hOpen]
    · intro rest hFirst hNext
      subst hFirst
      subst hNext
      exact hOpen ⟨rest, rfl⟩

theorem hasOpening_iff
    (t : Text) :
    hasOpening t = true ↔ openingBraces <:+: t := by
  induction t with
  | nil => simp [hasOpening, openingBraces]
  | cons c cs ih =>
      rw [hasOpening_cons, ih, List.infix_cons_iff]

end LabelPress

import LabelPress.Proofs.Outcome
import LabelPress.Proofs.Placeholder.Scan
import LabelPress.Variable.Usage

/-
  Texts as literals with placeholders between them.

  A text has one cut at its placeholders, each of which is the
  leftmost and shortest one that opens behind the one before.

  Main declarations:
    * `Segments`, with `Segments.filled`
    * `segments`
    * `Cuts`, with `cuts_segments` and `Cuts.eq_segments`
    * `Cuts.not_opens`
-/

namespace LabelPress

------------------------------------------------------------
-- Segments
------------------------------------------------------------

/-
  A literal, and then placeholders, each with the literal that
  follows it.
-/
structure Segments where
  first : Text
  rest : List (Placeholder × Text)

namespace Segments

/- The placeholders in order. -/
def placeholders
    (s : Segments) :
    List Placeholder :=
  s.rest.map Prod.fst

/- The literals in order. -/
def literals
    (s : Segments) :
    List Text :=
  s.first :: s.rest.map Prod.snd

/- The text with something in place of each placeholder. -/
def filled
    (s : Segments)
    (fill : Placeholder → Text) :
    Text :=
  s.first ++ s.rest.flatMap fun (p, l) => fill p ++ l

/- Put one more character before the first placeholder. -/
def cons
    (c : CodePoint)
    (s : Segments) :
    Segments :=
  ⟨c :: s.first, s.rest⟩

/- The segments of pieces in a row. -/
def ofPieces :
    List Piece → Segments
  | [] => ⟨[], []⟩
  | .literal c :: ps => cons c (ofPieces ps)
  | .placeholder p :: ps =>
      let s := ofPieces ps
      ⟨[], (p, s.first) :: s.rest⟩

theorem placeholders_ofPieces
    (ps : List Piece) :
    (ofPieces ps).placeholders =
      ps.filterMap Piece.placeholder? := by
  induction ps with
  | nil => rfl
  | cons piece ps ih =>
      cases piece with
      | literal c => exact ih
      | placeholder p =>
          change p :: (ofPieces ps).placeholders = _
          rw [ih]
          rfl

end Segments

/- A piece with something in place of a placeholder. -/
def Piece.filled
    (fill : Placeholder → Text) :
    Piece → Text
  | literal c => [c]
  | placeholder p => fill p

theorem Segments.filled_ofPieces
    (fill : Placeholder → Text)
    (ps : List Piece) :
    (ofPieces ps).filled fill =
      ps.flatMap (Piece.filled fill) := by
  induction ps with
  | nil => rfl
  | cons piece ps ih =>
      cases piece with
      | literal c =>
          change c :: (ofPieces ps).filled fill = _
          rw [ih]
          rfl
      | placeholder p =>
          rw [List.flatMap_cons, ← ih]
          simp [ofPieces, filled, Piece.filled]

/- The segments of a text. -/
def segments
    (t : Text) :
    Segments :=
  .ofPieces (pieces t)

------------------------------------------------------------
-- The Leftmost Cut
------------------------------------------------------------

/-
  A text is cut at placeholders: none opens inside a literal,
  read on to the end of the text, and each placeholder is the
  shortest one that opens at its place.
-/
inductive Cuts :
    Text → Segments → Prop where
  | last
      {literal : Text}
      (hNone :
        ∀ after, after <:+ literal →
          ∀ content, ¬ Opens content after) :
      Cuts literal ⟨literal, []⟩
  | next
      {literal content t : Text}
      {s : Segments}
      (hLeftmost :
        ∀ after, after <:+ literal → after ≠ [] →
          ∀ other, ¬ Opens other
            (after ++
              ((Placeholder.ofContent content).text ++ t)))
      (hOpens :
        Opens content
          ((Placeholder.ofContent content).text ++ t))
      (hShortest :
        ∀ other,
          Opens other
              ((Placeholder.ofContent content).text ++ t) →
            content.length ≤ other.length)
      (hRest : Cuts t s) :
      Cuts
        (literal ++
          ((Placeholder.ofContent content).text ++ t))
        ⟨literal, (.ofContent content, s.first) :: s.rest⟩

/- A character at which nothing opens joins the first literal. -/
theorem Cuts.cons
    {c : CodePoint}
    {t : Text}
    {s : Segments}
    (hCuts : Cuts t s)
    (hNone : placeholderAt? (c :: t) = none) :
    Cuts (c :: t) (s.cons c) := by
  have hClosed := placeholderAt?_eq_none_iff.mp hNone
  cases hCuts with
  | last hInner =>
      apply Cuts.last
      intro after hAfter
      rcases List.suffix_cons_iff.mp hAfter with rfl | hTail
      · exact hClosed
      · exact hInner after hTail
  | next hLeftmost hOpens hShortest hRest =>
      rename_i literal content t s
      refine @Cuts.next (c :: literal) content t s ?_ hOpens
        hShortest hRest
      intro after hAfter hNonempty
      rcases List.suffix_cons_iff.mp hAfter with rfl | hTail
      · exact hClosed
      · exact hLeftmost after hTail hNonempty

/- The segments of a text are a cut of it. -/
theorem cuts_segments
    (t : Text) :
    Cuts t (segments t) := by
  have hScanned := scanned_pieces t
  have hText := texts_pieces t
  unfold segments
  generalize pieces t = ps at hScanned hText
  subst hText
  induction hScanned with
  | nil =>
      apply Cuts.last
      intro after hAfter content hOpens
      obtain rfl : after = [] := List.suffix_nil.mp hAfter
      have hNil := List.prefix_nil.mp hOpens.begins
      simp [openingBraces] at hNil
  | literal hNone hRest ih =>
      exact ih.cons hNone
  | placeholder hFound hRest ih =>
      rename_i content ps
      rcases placeholderAt?_eq_some_iff.mp hFound with
        ⟨hOpens, hShortest⟩
      refine @Cuts.next [] content _ _ ?_ hOpens hShortest ih
      intro after hAfter hNonempty
      exact absurd (List.suffix_nil.mp hAfter) hNonempty

/- Text in which nothing opens is cut into its characters. -/
theorem pieces_append_of_none
    {literal t : Text}
    (hNone :
      ∀ after, after <:+ literal → after ≠ [] →
        placeholderAt? (after ++ t) = none) :
    pieces (literal ++ t) =
      literal.map Piece.literal ++ pieces t := by
  induction literal with
  | nil => rfl
  | cons c cs ih =>
      have hFirst :
          placeholderAt? (c :: (cs ++ t)) = none :=
        hNone (c :: cs) List.suffix_rfl (by simp)
      rw [List.cons_append, pieces_literal hFirst, ih]
      · rfl
      · intro after hAfter hNonempty
        exact hNone after
          (hAfter.trans (List.suffix_cons c cs)) hNonempty

theorem Segments.ofPieces_append
    (literal : Text)
    (ps : List Piece) :
    ofPieces (literal.map Piece.literal ++ ps) =
      ⟨literal ++ (ofPieces ps).first,
        (ofPieces ps).rest⟩ := by
  induction literal with
  | nil => rfl
  | cons c cs ih =>
      rw [List.map_cons, List.cons_append, ofPieces, ih]
      rfl

/- A text has one cut. -/
theorem Cuts.eq_segments
    {t : Text}
    {s : Segments}
    (hCuts : Cuts t s) :
    s = segments t := by
  induction hCuts with
  | last hNone =>
      rename_i literal
      have hPieces :
          pieces (literal ++ []) =
            literal.map Piece.literal ++ pieces [] := by
        apply pieces_append_of_none
        intro after hAfter hNonempty
        rw [List.append_nil]
        exact placeholderAt?_eq_none_iff.mpr
          (hNone after hAfter)
      rw [List.append_nil] at hPieces
      rw [segments, hPieces, Segments.ofPieces_append]
      simp [pieces, piecesFrom, Segments.ofPieces]
  | next hLeftmost hOpens hShortest hRest ih =>
      rename_i literal content t s
      have hFound :=
        placeholderAt?_eq_some_iff.mpr ⟨hOpens, hShortest⟩
      have hPieces :
          pieces
              (literal ++
                ((Placeholder.ofContent content).text ++ t)) =
            literal.map Piece.literal ++
              pieces
                ((Placeholder.ofContent content).text ++ t) := by
        apply pieces_append_of_none
        intro after hAfter hNonempty
        exact placeholderAt?_eq_none_iff.mpr
          (hLeftmost after hAfter hNonempty)
      rw [segments, hPieces, Segments.ofPieces_append,
        pieces_placeholder hFound, ih]
      simp [segments, Segments.ofPieces]

/- No placeholder lies inside a literal of a cut. -/
theorem Cuts.not_opens
    {t : Text}
    {s : Segments}
    (hCuts : Cuts t s) :
    ∀ literal ∈ s.literals, ∀ after, after <:+ literal →
      ∀ content, ¬ Opens content after := by
  induction hCuts with
  | last hNone =>
      intro l hLiteral after hAfter
      obtain rfl := List.mem_singleton.mp hLiteral
      exact hNone after hAfter
  | next hLeftmost hOpens hShortest hRest ih =>
      intro l hLiteral after hAfter content hInside
      rcases List.mem_cons.mp hLiteral with rfl | hLater
      · have hNonempty : after ≠ [] := by
          rintro rfl
          have hNil := List.prefix_nil.mp hInside.begins
          simp [openingBraces] at hNil
        exact hLeftmost after hAfter hNonempty content
          (hInside.append _)
      · exact ih l hLater after hAfter content hInside

end LabelPress

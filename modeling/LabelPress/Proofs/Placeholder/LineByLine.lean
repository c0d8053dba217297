import LabelPress.Machine.Usual
import LabelPress.Proofs.Placeholder.Resolution
import LabelPress.Proofs.Text.Lines

/-
  Texts resolved line by line.

  No placeholder reaches over a newline, so the pieces of a text
  are those of its lines, and a text is resolved by resolving its
  lines one after another.  No other character ends a line: what
  is neither a newline nor a brace has no effect on the cut.

  Main declarations:
    * `Scanned.append_newline`, `pieces_append_newline`
    * `resolve_text`, `resolveText_append_newline`
    * `KeepsMarks`, with `KeepsMarks.pieces_map`
    * `resolve_line_by_line`
-/

namespace LabelPress

------------------------------------------------------------
-- Newlines
------------------------------------------------------------

/- What opens behind the text before a newline opens in it. -/
theorem opens_append_newline
    {content s t : Text} :
    Opens content (s ++ .char '\n' :: t) ↔ Opens content s := by
  refine ⟨fun hOpens => ?_, fun hOpens => hOpens.append _⟩
  refine ⟨hOpens.nonempty, hOpens.oneLine, ?_⟩
  have hLine :
      (openingBraces ++ content ++ closingBraces).IsLine := by
    simp only [Text.isLine_append]
    exact ⟨⟨by decide, hOpens.oneLine⟩, by decide⟩
  exact hLine.prefix_of_prefix hOpens.begins

theorem placeholderAt?_append_newline
    (s t : Text) :
    placeholderAt? (s ++ .char '\n' :: t) = placeholderAt? s := by
  apply Option.ext
  intro content
  simp only [placeholderAt?_eq_some_iff, opens_append_newline]

/- Two scanned rows are one with a newline between them. -/
theorem Scanned.append_newline
    {ps qs : List Piece}
    (hFirst : Scanned ps)
    (hSecond : Scanned qs) :
    Scanned (ps ++ .literal (.char '\n') :: qs) := by
  have hTexts :
      ∀ rs, Piece.texts (rs ++ .literal (.char '\n') :: qs) =
        Piece.texts rs ++ .char '\n' :: Piece.texts qs :=
    fun rs => Piece.texts_append rs _
  induction hFirst with
  | nil =>
      exact .literal (placeholderAt?_append_newline [] _) hSecond
  | @literal c ps hNone hRest ih =>
      rw [List.cons_append]
      refine .literal ?_ ih
      rw [hTexts, ← List.cons_append,
        placeholderAt?_append_newline, hNone]
  | @placeholder content ps hFound hRest ih =>
      rw [List.cons_append]
      refine .placeholder ?_ ih
      rw [hTexts, ← List.append_assoc,
        placeholderAt?_append_newline, hFound]

/- A text is cut at a newline before it is cut into pieces. -/
theorem pieces_append_newline
    (s t : Text) :
    pieces (s ++ .char '\n' :: t) =
      pieces s ++ .literal (.char '\n') :: pieces t := by
  have hScanned :=
    (scanned_pieces s).append_newline (scanned_pieces t)
  have hPieces := hScanned.pieces_eq
  rwa [Piece.texts_append, Piece.texts_literal, texts_pieces,
    texts_pieces] at hPieces

theorem references_append_newline
    (s t : Text) :
    references (.text (s ++ .char '\n' :: t)) =
      references (.text s) ++ references (.text t) := by
  simp only [references, placeholders, pieces_append_newline,
    List.filterMap_append]
  rfl

------------------------------------------------------------
-- Resolutions
------------------------------------------------------------

/- A text that is not looked through stays as it is. -/
theorem resolveText_of_not_hasOpening
    [Machine]
    {t : Text}
    (hNone : hasOpening t = false)
    (b : Bindings) :
    resolveText t b = .ok t := by
  have hEach :
      ∀ s : Text,
        Outcome.each (fun piece : Piece => piece.resolve b)
            (s.map Piece.literal) =
          .ok (s.map fun c => [c]) := by
    intro s
    induction s with
    | nil => rfl
    | cons c cs ih =>
        rw [List.map_cons, Outcome.each_cons, ih]
        rfl
  have hFlat : (t.map fun c => [c]).flatten = t :=
    List.flatMap_singleton' t
  rw [resolveText, pieces_of_not_hasOpening hNone, hEach]
  change Outcome.ok (t.map fun c => [c]).flatten = _
  rw [hFlat]

/- The early answer for a text is what looking it through gives. -/
theorem resolve_text
    [Machine]
    (t : Text)
    (b : Bindings) :
    resolve (.text t) b = do
      return .text (← resolveText t b) := by
  rw [resolve]
  split_ifs with hOpening
  · rfl
  · rw [Bool.not_eq_true] at hOpening
    rw [resolveText_of_not_hasOpening hOpening]
    rfl

/- The lines of a text are resolved one after another. -/
theorem resolveText_append_newline
    [Machine]
    (s t : Text)
    (b : Bindings) :
    resolveText (s ++ .char '\n' :: t) b = do
      let u ← resolveText s b
      let w ← resolveText t b
      return u ++ .char '\n' :: w := by
  have hNewline :
      (Piece.literal (.char '\n')).resolve b =
        pure [.char '\n'] := rfl
  simp only [resolveText, pieces_append_newline,
    Outcome.each_append, Outcome.each_cons, hNewline,
    Outcome.bind_assoc, Outcome.pure_bind, List.flatten_append, List.flatten_cons,
    List.singleton_append]

------------------------------------------------------------
-- Characters without Effect on the Cut
------------------------------------------------------------

/- The characters that a text is cut at. -/
def marks :
    List CodePoint :=
  ['\n', '\x7b', '\x7d']

/- Whether a change of characters leaves the marks as they are. -/
def KeepsMarks
    (f : CodePoint → CodePoint) :
    Prop :=
  ∀ mark ∈ marks, ∀ c, f c = mark ↔ c = mark

/- A placeholder with the characters of its content changed. -/
def Placeholder.mapped
    (f : CodePoint → CodePoint)
    (p : Placeholder) :
    Placeholder :=
  .ofContent (p.content.map f)

/- A piece with its characters changed. -/
def Piece.mapped
    (f : CodePoint → CodePoint) :
    Piece → Piece
  | literal c => literal (f c)
  | placeholder p => placeholder (p.mapped f)

namespace KeepsMarks

variable {f : CodePoint → CodePoint}

theorem map_eq_self
    (hMarks : KeepsMarks f)
    {u : Text}
    (hu : ∀ c ∈ u, c ∈ marks) :
    u.map f = u := by
  have hSame : ∀ c ∈ u, f c = c :=
    fun c hMember => (hMarks c (hu c hMember) c).mpr rfl
  rw [List.map_congr_left hSame, List.map_id']

/- Marks stand at the start of a text before and after. -/
theorem prefix_map_iff
    (hMarks : KeepsMarks f)
    {u s : Text}
    (hu : ∀ c ∈ u, c ∈ marks) :
    u <+: s.map f ↔ u <+: s := by
  induction u generalizing s with
  | nil => simp
  | cons c u ih =>
      rcases List.forall_mem_cons.mp hu with ⟨hc, hRest⟩
      cases s with
      | nil => simp
      | cons d s =>
          rw [List.map_cons, List.cons_prefix_cons,
            List.cons_prefix_cons, ih hRest, eq_comm,
            hMarks c hc d, eq_comm]

theorem content?_map
    (hMarks : KeepsMarks f)
    (s : Text) :
    content? (s.map f) = (content? s).map (List.map f) := by
  have hNewline : ∀ c, f c = .char '\n' ↔ c = .char '\n' :=
    hMarks (.char '\n') (by decide)
  have hClosing : ∀ c ∈ closingBraces, c ∈ marks := by decide
  induction s with
  | nil => rfl
  | cons c cs ih =>
      rw [List.map_cons, content?_cons, content?_cons, ih]
      simp only [hNewline, hMarks.prefix_map_iff hClosing]
      split_ifs with hLine hClose
      · rfl
      · rfl
      · cases content? cs with
        | none => rfl
        | some content => rfl

theorem placeholderAt?_map
    (hMarks : KeepsMarks f)
    (s : Text) :
    placeholderAt? (s.map f) =
      (placeholderAt? s).map (List.map f) := by
  have hOpening : ∀ c ∈ openingBraces, c ∈ marks := by decide
  by_cases hOpen : openingBraces <+: s
  · rcases hOpen with ⟨rest, rfl⟩
    rw [List.map_append, hMarks.map_eq_self hOpening,
      placeholderAt?_opening, placeholderAt?_opening,
      hMarks.content?_map]
  · rw [placeholderAt?_of_not_opening hOpen,
      placeholderAt?_of_not_opening
        (mt (hMarks.prefix_map_iff hOpening).mp hOpen)]
    rfl

theorem text_mapped
    (hMarks : KeepsMarks f)
    (p : Placeholder) :
    (p.mapped f).text = p.text.map f := by
  have hOpening : openingBraces.map f = openingBraces :=
    hMarks.map_eq_self (by decide)
  have hClosing : closingBraces.map f = closingBraces :=
    hMarks.map_eq_self (by decide)
  have hText :
      p.text = openingBraces ++ p.content ++ closingBraces := rfl
  rw [Placeholder.mapped, Placeholder.text_ofContent, hText,
    List.map_append, List.map_append, hOpening, hClosing]

theorem texts_mapped
    (hMarks : KeepsMarks f)
    (ps : List Piece) :
    Piece.texts (ps.map (Piece.mapped f)) =
      (Piece.texts ps).map f := by
  induction ps with
  | nil => rfl
  | cons piece ps ih =>
      cases piece with
      | literal c =>
          rw [List.map_cons, Piece.mapped, Piece.texts_literal,
            ih]
          rfl
      | placeholder p =>
          rw [List.map_cons, Piece.mapped,
            Piece.texts_placeholder, Piece.texts_placeholder, ih,
            hMarks.text_mapped, List.map_append]

theorem scanned_mapped
    (hMarks : KeepsMarks f)
    {ps : List Piece}
    (hScanned : Scanned ps) :
    Scanned (ps.map (Piece.mapped f)) := by
  induction hScanned with
  | nil => exact .nil
  | @literal c ps hNone hRest ih =>
      refine .literal ?_ ih
      rw [hMarks.texts_mapped, ← List.map_cons,
        hMarks.placeholderAt?_map, hNone]
      rfl
  | @placeholder content ps hFound hRest ih =>
      refine .placeholder ?_ ih
      change placeholderAt?
        (((Placeholder.ofContent content).mapped f).text ++ _) = _
      rw [hMarks.texts_mapped, hMarks.text_mapped,
        ← List.map_append, hMarks.placeholderAt?_map, hFound]
      rfl

/- A text is cut as before its characters were changed. -/
theorem pieces_map
    (hMarks : KeepsMarks f)
    (t : Text) :
    pieces (t.map f) = (pieces t).map (Piece.mapped f) := by
  have hScanned := hMarks.scanned_mapped (scanned_pieces t)
  rw [← hScanned.pieces_eq, hMarks.texts_mapped, texts_pieces]

theorem references_map
    (hMarks : KeepsMarks f)
    (t : Text) :
    references (.text (t.map f)) =
      (references (.text t)).map (Placeholder.mapped f) := by
  have hPiece :
      Piece.placeholder? ∘ Piece.mapped f =
        fun piece =>
          piece.placeholder?.map (Placeholder.mapped f) := by
    funext piece
    cases piece with
    | literal c => rfl
    | placeholder p => rfl
  simp only [references, placeholders, hMarks.pieces_map,
    List.filterMap_map, hPiece, List.map_filterMap]

end KeepsMarks

------------------------------------------------------------
-- Lines
------------------------------------------------------------

/-
  A text is resolved line by line, and fails where the first of
  its lines does.  Its references are those of the lines.  Only
  the newline ends a line: other characters that are no braces
  may be exchanged, and the text is cut at the same places.
-/
theorem resolve_line_by_line
    [Machine]
    (s t : Text)
    (b : Bindings) :
    (∃ first second : Outcome Text,
      resolve (.text s) b = (do return .text (← first)) ∧
        resolve (.text t) b = (do return .text (← second)) ∧
        resolve (.text (s ++ .char '\n' :: t)) b = do
          let u ← first
          let w ← second
          return .text (u ++ .char '\n' :: w)) ∧
      references (.text (s ++ .char '\n' :: t)) =
        references (.text s) ++ references (.text t) ∧
      ∀ f, KeepsMarks f →
        references (.text (s.map f)) =
          (references (.text s)).map (Placeholder.mapped f) := by
  refine ⟨⟨resolveText s b, resolveText t b, resolve_text s b,
    resolve_text t b, ?_⟩, references_append_newline s t,
    fun f hMarks => hMarks.references_map s⟩
  rw [resolve_text, resolveText_append_newline]
  simp only [Outcome.bind_assoc, Outcome.pure_bind]

/-
  A line with a separator other than the newline inside of a
  placeholder, where a blank may stand as well, and with braces
  that are left open at its end.
-/
theorem resolve_line_by_line_separated :
    let s : Text := "\x7b\x7bn\u2028\x7d\x7d\x7b\x7b"
    let t : Text := "m\x7d\x7d"
    let b : Bindings := .table [("n", .bound ⟨.string, .text "x"⟩)]
    let plain : CodePoint → CodePoint :=
      fun c => if c = .char '\u2028' then .char ' ' else c
    resolve (.text (s ++ .char '\n' :: t)) b =
        .ok (.text "x\x7b\x7b\nm\x7d\x7d") ∧
      references (.text (s ++ .char '\n' :: t)) =
        [.ofContent "n\u2028"] ∧
      KeepsMarks plain ∧
      references (.text (s.map plain)) = [.ofContent "n "] := by
  intro s t b plain
  have hMarks : KeepsMarks plain := by
    intro mark hMember c
    have hPlain :
        mark ≠ .char ' ' ∧ mark ≠ .char '\u2028' := by
      revert mark
      decide
    simp only [plain]
    split_ifs with hSeparator
    · rw [hSeparator]
      exact iff_of_false hPlain.1.symm hPlain.2.symm
    · rfl
  rcases resolve_line_by_line s t b with
    ⟨_, hReferences, hMapped⟩
  refine ⟨by rfl, ?_, hMarks, ?_⟩
  · rw [hReferences]
    rfl
  · rw [hMapped plain hMarks]
    rfl

end LabelPress

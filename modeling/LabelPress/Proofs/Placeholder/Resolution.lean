import LabelPress.Proofs.Placeholder.Segments
import LabelPress.Variable.Resolution

/-
  Texts with their placeholders resolved.

  The result for a text is put together from the results for its
  pieces, also where the text is not looked through because no
  placeholder can open in it.  So a resolved text is the cut of
  the text with each placeholder filled.

  Main declarations:
    * `Bindings.Fills`
    * `result_resolve_text`
    * `resolve_fills_cut`
-/

namespace LabelPress

------------------------------------------------------------
-- Fillings
------------------------------------------------------------

variable [Machine]

/-
  What stands for a placeholder: its own text when its name has
  no value, and else the rendering of the value.
-/
def Bindings.Fills
    (b : Bindings)
    (p : Placeholder)
    (v : Text) :
    Prop :=
  (b.get? p.name = .ok none ∧ v = p.text) ∨
    ∃ bound, b.get? p.name = .ok (some bound) ∧
      (bound.classify.render p.format).result = .ok v

/- The result for a placeholder, from the look-up of its name. -/
theorem Placeholder.result_resolve
    (p : Placeholder)
    (b : Bindings) :
    (p.resolve b).result =
      b.get? p.name >>= fun
        | some bound =>
            (bound.classify.render p.format).result
        | none => .ok p.text := by
  unfold Placeholder.resolve
  rw [Outcome.result_bind, Outcome.result_liftM]
  congr 1
  funext found
  cases found with
  | none => rfl
  | some bound => rfl

theorem Placeholder.result_resolve_eq_ok_iff
    {p : Placeholder}
    {b : Bindings}
    {v : Text} :
    (p.resolve b).result = .ok v ↔ b.Fills p v := by
  rw [Placeholder.result_resolve, Outcome.bind_eq_ok_iff]
  constructor
  · rintro ⟨found, hGet, hValue⟩
    cases found with
    | none => exact .inl ⟨hGet, (Except.ok.inj hValue).symm⟩
    | some bound => exact .inr ⟨bound, hGet, hValue⟩
  · rintro (⟨hGet, rfl⟩ | ⟨bound, hGet, hValue⟩)
    · exact ⟨none, hGet, rfl⟩
    · exact ⟨some bound, hGet, hValue⟩

------------------------------------------------------------
-- Pieces
------------------------------------------------------------

@[simp] theorem Piece.result_resolve_literal
    (c : CodePoint)
    (b : Bindings) :
    ((Piece.literal c).resolve b).result = .ok [c] :=
  rfl

@[simp] theorem Piece.result_resolve_placeholder
    (p : Placeholder)
    (b : Bindings) :
    ((Piece.placeholder p).resolve b).result =
      (p.resolve b).result :=
  rfl

/- The text that a row of pieces becomes. -/
def Piece.resolved
    (b : Bindings)
    (ps : List Piece) :
    Except Fault Text := do
  let parts ← ps.mapM fun piece => (piece.resolve b).result
  return parts.flatten

theorem Piece.resolved_cons
    (b : Bindings)
    (piece : Piece)
    (ps : List Piece) :
    Piece.resolved b (piece :: ps) = do
      let v ← (piece.resolve b).result
      let rest ← Piece.resolved b ps
      return v ++ rest := by
  simp [Piece.resolved]

theorem Piece.resolved_literals
    (b : Bindings)
    (literal : Text)
    (ps : List Piece) :
    Piece.resolved b (literal.map Piece.literal ++ ps) = do
      let rest ← Piece.resolved b ps
      return literal ++ rest := by
  induction literal with
  | nil => simp
  | cons c cs ih =>
      rw [List.map_cons, List.cons_append,
        Piece.resolved_cons, ih]
      simp

/- What a placeholder becomes, empty if its rendering fails. -/
def Placeholder.filledWith
    (b : Bindings)
    (p : Placeholder) :
    Text :=
  (p.resolve b).result.toOption.getD []

theorem Placeholder.filledWith_eq
    {b : Bindings}
    {p : Placeholder}
    {v : Text}
    (hValue : (p.resolve b).result = .ok v) :
    Placeholder.filledWith b p = v := by
  rw [Placeholder.filledWith, hValue]
  rfl

/- A row of pieces is resolved by filling its placeholders. -/
theorem Piece.resolved_eq_ok_iff
    {b : Bindings}
    {ps : List Piece}
    {u : Text} :
    Piece.resolved b ps = .ok u ↔
      ∃ fill : Placeholder → Text,
        (∀ p ∈ ps.filterMap Piece.placeholder?,
          b.Fills p (fill p)) ∧
        u = ps.flatMap (Piece.filled fill) := by
  constructor
  · intro hResolved
    refine ⟨Placeholder.filledWith b, ?_⟩
    induction ps generalizing u with
    | nil => simpa [Piece.resolved, eq_comm] using hResolved
    | cons piece ps ih =>
        rw [Piece.resolved_cons] at hResolved
        rcases Outcome.bind_eq_ok_iff.mp hResolved with
          ⟨v, hValue, hTail⟩
        rcases Outcome.bind_eq_ok_iff.mp hTail with
          ⟨rest, hRest, hJoin⟩
        obtain rfl : v ++ rest = u := Except.ok.inj hJoin
        rcases ih hRest with ⟨hFills, hText⟩
        rw [List.flatMap_cons, ← hText]
        cases piece with
        | literal c =>
            obtain rfl : [c] = v := Except.ok.inj hValue
            exact ⟨hFills, rfl⟩
        | placeholder p =>
            obtain rfl := Placeholder.filledWith_eq hValue
            refine ⟨?_, rfl⟩
            intro q hMember
            rcases List.mem_cons.mp hMember with rfl | hLater
            · exact
                Placeholder.result_resolve_eq_ok_iff.mp hValue
            · exact hFills q hLater
  · rintro ⟨fill, hFills, rfl⟩
    induction ps with
    | nil => rfl
    | cons piece ps ih =>
        have hTail :
            ∀ p ∈ ps.filterMap Piece.placeholder?,
              b.Fills p (fill p) := by
          intro p hMember
          apply hFills
          rcases List.mem_filterMap.mp hMember with
            ⟨found, hFound, hSame⟩
          exact List.mem_filterMap.mpr
            ⟨found, List.mem_cons_of_mem piece hFound, hSame⟩
        have hHead :
            (piece.resolve b).result =
              .ok (piece.filled fill) := by
          cases piece with
          | literal c => rfl
          | placeholder p =>
              apply Placeholder.result_resolve_eq_ok_iff.mpr
              exact hFills p List.mem_cons_self
        rw [Piece.resolved_cons, hHead, ih hTail]
        rfl

------------------------------------------------------------
-- Texts
------------------------------------------------------------

theorem result_resolveText
    (t : Text)
    (b : Bindings) :
    (resolveText t b).result =
      Piece.resolved b (pieces t) := by
  unfold resolveText Piece.resolved
  rw [Outcome.result_bind, Outcome.result_each]
  rfl

/- A text without opening braces has literal pieces alone. -/
omit [Machine] in
theorem pieces_of_not_hasOpening
    {t : Text}
    (hNone : hasOpening t = false) :
    pieces t = t.map Piece.literal := by
  have hPieces :
      pieces (t ++ []) =
        t.map Piece.literal ++ pieces [] := by
    apply pieces_append_of_none
    intro after hAfter _
    rw [List.append_nil]
    apply placeholderAt?_eq_none_iff.mpr
    intro content hOpens
    have hPrefix : openingBraces <+: after := by
      refine List.IsPrefix.trans ?_ hOpens.begins
      rw [List.append_assoc]
      exact List.prefix_append _ _
    have hInfix : openingBraces <:+: t :=
      hPrefix.isInfix.trans hAfter.isInfix
    rw [← hasOpening_iff, hNone] at hInfix
    exact Bool.false_ne_true hInfix
  simpa [pieces, piecesFrom] using hPieces

/-
  The result for a text.  A text that is not looked through has
  no piece that could change.
-/
theorem result_resolve_text
    (t : Text)
    (b : Bindings) :
    (resolve (.text t) b).result = do
      let u ← Piece.resolved b (pieces t)
      return .text u := by
  rw [resolve]
  cases hOpening : hasOpening t with
  | true =>
      rw [if_pos rfl, Outcome.result_bind,
        result_resolveText]
      rfl
  | false =>
      rw [if_neg Bool.false_ne_true,
        pieces_of_not_hasOpening hOpening,
        ← List.append_nil (t.map Piece.literal),
        Piece.resolved_literals]
      simp [Piece.resolved]

/- A text is resolved by filling its segments. -/
theorem result_resolve_text_eq_ok_iff
    {t : Text}
    {b : Bindings}
    {v : Value} :
    (resolve (.text t) b).result = .ok v ↔
      ∃ fill : Placeholder → Text,
        (∀ p ∈ references (.text t), b.Fills p (fill p)) ∧
        v = .text ((segments t).filled fill) := by
  rw [result_resolve_text, Outcome.bind_eq_ok_iff]
  constructor
  · rintro ⟨u, hResolved, hValue⟩
    rcases Piece.resolved_eq_ok_iff.mp hResolved with
      ⟨fill, hFills, rfl⟩
    refine ⟨fill, hFills, ?_⟩
    rw [segments, Segments.filled_ofPieces]
    exact (Except.ok.inj hValue).symm
  · rintro ⟨fill, hFills, rfl⟩
    refine ⟨(segments t).filled fill, ?_, rfl⟩
    rw [segments, Segments.filled_ofPieces]
    exact Piece.resolved_eq_ok_iff.mpr ⟨fill, hFills, rfl⟩

/-
  Resolving a text fills the cut at its placeholders.  The cut
  is the only one, and the same for all bindings; its
  placeholders are the references of the text.  A text without
  placeholders, and one without opening braces, stays as it is.
-/
theorem resolve_fills_cut
    (t : Text) :
    ∃ s : Segments,
      Cuts t s ∧
      (∀ other, Cuts t other → other = s) ∧
      s.placeholders = references (.text t) ∧
      s.filled Placeholder.text = t ∧
      (∀ literal ∈ s.literals, ∀ after, after <:+ literal →
        ∀ content, ¬ Opens content after) ∧
      (∀ (b : Bindings) (v : Value),
        (resolve (.text t) b).result = .ok v ↔
          ∃ fill : Placeholder → Text,
            (∀ p ∈ references (.text t),
              b.Fills p (fill p)) ∧
            v = .text (s.filled fill)) ∧
      (references (.text t) = [] →
        ∀ b, (resolve (.text t) b).result = .ok (.text t)) ∧
      (¬ openingBraces <:+: t →
        ∀ b, resolve (.text t) b = .ok (.text t)) := by
  have hCuts := cuts_segments t
  have hPlaceholders :
      (segments t).placeholders = references (.text t) :=
    Segments.placeholders_ofPieces (pieces t)
  have hText : (segments t).filled Placeholder.text = t := by
    rw [segments, Segments.filled_ofPieces]
    have hPiece :
        Piece.filled Placeholder.text = Piece.text := by
      funext piece
      cases piece with
      | literal c => rfl
      | placeholder p => rfl
    rw [hPiece]
    exact texts_pieces t
  have hResolve :
      ∀ (b : Bindings) (v : Value),
        (resolve (.text t) b).result = .ok v ↔
          ∃ fill : Placeholder → Text,
            (∀ p ∈ references (.text t),
              b.Fills p (fill p)) ∧
            v = .text ((segments t).filled fill) := by
    exact fun b v => result_resolve_text_eq_ok_iff
  refine ⟨segments t, hCuts,
    fun other hOther => hOther.eq_segments, hPlaceholders,
    hText, hCuts.not_opens, hResolve, ?_, ?_⟩
  · intro hNone b
    rw [hResolve]
    refine ⟨Placeholder.text, ?_, by rw [hText]⟩
    intro p hMember
    rw [hNone] at hMember
    exact absurd hMember List.not_mem_nil
  · intro hNone b
    have hOpening : hasOpening t = false := by
      rw [← hasOpening_iff] at hNone
      exact Bool.eq_false_iff.mpr hNone
    rw [resolve, hOpening]
    rfl

end LabelPress

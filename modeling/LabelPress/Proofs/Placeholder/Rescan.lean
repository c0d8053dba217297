import LabelPress.Machine.Usual
import LabelPress.Proofs.Placeholder.Resolution

/-
  Resolved texts looked through again.

  Where placeholders give way to texts without braces, neither
  the literals around them nor the placeholders that are kept
  can be read in another way: a scan of the new text takes the
  kept pieces again and the inserted texts as literals.

  Main declarations:
    * `Braceless`
    * `Settled`, with `Settled.scanned`
    * `Bindings.Overlays`, `Bindings.lacks`
    * `Piece.exists_left`, `Piece.exists_settled`
    * `resolve_resolve`
    * `references_resolve`
-/

namespace LabelPress

------------------------------------------------------------
-- Settled Rows
------------------------------------------------------------

/- A text in which no brace stands. -/
def Braceless
    (v : Text) :
    Prop :=
  CodePoint.char '\x7b' ∉ v ∧ CodePoint.char '\x7d' ∉ v

/-
  One row of pieces comes from another when some placeholders
  give way to texts without braces.
-/
inductive Settled :
    List Piece → List Piece → Prop where
  | nil : Settled [] []
  | literal
      {ps qs : List Piece}
      (c : CodePoint)
      (hRest : Settled ps qs) :
      Settled (.literal c :: ps) (.literal c :: qs)
  | kept
      {ps qs : List Piece}
      (p : Placeholder)
      (hRest : Settled ps qs) :
      Settled (.placeholder p :: ps) (.placeholder p :: qs)
  | filled
      {ps qs : List Piece}
      (p : Placeholder)
      {v : Text}
      (hBraceless : Braceless v)
      (hRest : Settled ps qs) :
      Settled (.placeholder p :: ps)
        (v.map Piece.literal ++ qs)

theorem Scanned.tail
    {piece : Piece}
    {ps : List Piece}
    (hScanned : Scanned (piece :: ps)) :
    Scanned ps := by
  cases hScanned with
  | literal _ hRest => exact hRest
  | placeholder _ hRest => exact hRest

/-
  In front of a placeholder a content is found, at the latest
  the one that ends where the placeholder ends.
-/
theorem Scanned.content?_ne_none
    {p : Placeholder}
    {ps : List Piece}
    (hScanned : Scanned (.placeholder p :: ps)) :
    content? (Piece.texts (.placeholder p :: ps)) ≠ none := by
  cases hScanned with
  | placeholder hFound hRest =>
      rename_i content
      have hOpens := (placeholderAt?_eq_some_iff.mp hFound).1
      have hLine :
          CodePoint.char '\n' ∉ openingBraces ++ content := by
        simp [openingBraces, hOpens.oneLine]
      have hPrefix :
          openingBraces ++ content ++ closingBraces <+:
            (Placeholder.ofContent content).text ++
              Piece.texts ps :=
        List.prefix_append _ _
      rcases exists_content?_of_prefix
          (by simp [openingBraces]) hLine hPrefix with
        ⟨found, hSome, _⟩
      rw [Piece.texts_placeholder, hSome]
      exact Option.some_ne_none found

/- So no brace stands right before a placeholder. -/
theorem Scanned.brace_ne_none
    {p : Placeholder}
    {ps : List Piece}
    (hScanned : Scanned (.placeholder p :: ps)) :
    placeholderAt?
        (.char '\x7b' :: Piece.texts (.placeholder p :: ps)) ≠
      none := by
  cases hScanned with
  | placeholder hFound hRest =>
      rename_i content
      have hOpens := (placeholderAt?_eq_some_iff.mp hFound).1
      intro hNone
      apply placeholderAt?_eq_none_iff.mp hNone
        (.char '\x7b' :: content)
      refine ⟨by simp, by simp [hOpens.oneLine],
        Piece.texts ps, ?_⟩
      simp [Placeholder.text_ofContent, openingBraces]

/-
  Closing braces that the new text starts with were there
  before, if no content could be found from there.
-/
theorem Settled.closing_of_closing
    {ps qs : List Piece}
    (hSettled : Settled ps qs)
    (hScanned : Scanned ps)
    (hNone : content? (Piece.texts ps) = none)
    (hClose : closingBraces <+: Piece.texts qs) :
    closingBraces <+: Piece.texts ps := by
  cases hSettled with
  | nil => exact hClose
  | kept p hRest =>
      exact absurd hNone hScanned.content?_ne_none
  | filled p hBraceless hRest =>
      exact absurd hNone hScanned.content?_ne_none
  | literal c hRest =>
      rename_i ps qs
      rcases List.cons_prefix_cons.mp hClose with
        ⟨rfl, hNext⟩
      apply List.cons_prefix_cons.mpr
      refine ⟨rfl, ?_⟩
      rw [Piece.texts_literal, content?_cons,
        if_neg (by decide)] at hNone
      split_ifs at hNone with hBoth
      have hTail : content? (Piece.texts ps) = none :=
        Option.map_eq_none_iff.mp hNone
      -- the second brace, too, is a literal of the old row
      cases hRest with
      | nil => exact hNext
      | literal d _ =>
          rcases List.cons_prefix_cons.mp hNext with ⟨rfl, _⟩
          exact List.cons_prefix_cons.mpr
            ⟨rfl, List.nil_prefix⟩
      | kept p _ =>
          exact absurd hTail hScanned.tail.content?_ne_none
      | filled p _ _ =>
          exact absurd hTail hScanned.tail.content?_ne_none

/- No content comes up where none could be found before. -/
theorem Settled.content?_eq_none
    {ps qs : List Piece}
    (hSettled : Settled ps qs)
    (hScanned : Scanned ps)
    (hNone : content? (Piece.texts ps) = none) :
    content? (Piece.texts qs) = none := by
  induction hSettled with
  | nil => exact hNone
  | literal c hRest ih =>
      rw [Piece.texts_literal, content?_cons] at hNone ⊢
      split_ifs at hNone with hLine hClose
      · rw [if_pos hLine]
      · have hTail := Option.map_eq_none_iff.mp hNone
        have hOpen :=
          mt (hRest.closing_of_closing hScanned.tail hTail)
            hClose
        rw [if_neg hLine, if_neg hOpen,
          ih hScanned.tail hTail]
        rfl
  | kept p hRest ih =>
      exact absurd hNone hScanned.content?_ne_none
  | filled p hBraceless hRest ih =>
      exact absurd hNone hScanned.content?_ne_none

/- No placeholder comes up at a literal. -/
theorem Settled.placeholderAt?_eq_none
    {c : CodePoint}
    {ps qs : List Piece}
    (hSettled : Settled ps qs)
    (hScanned : Scanned ps)
    (hNone : placeholderAt? (c :: Piece.texts ps) = none) :
    placeholderAt? (c :: Piece.texts qs) = none := by
  by_cases hOpen : openingBraces <+: c :: Piece.texts qs
  · rcases List.cons_prefix_cons.mp hOpen with ⟨rfl, hNext⟩
    cases hSettled with
    | nil => exact hNone
    | kept p hRest =>
        exact absurd hNone hScanned.brace_ne_none
    | filled p hBraceless hRest =>
        exact absurd hNone hScanned.brace_ne_none
    | literal d hRest =>
        rcases List.cons_prefix_cons.mp hNext with ⟨rfl, _⟩
        exact hRest.content?_eq_none hScanned.tail hNone
  · exact placeholderAt?_of_not_opening hOpen

/- Inserted text without braces is taken as literals. -/
theorem Scanned.append_literals
    {v : Text}
    {ps : List Piece}
    (hScanned : Scanned ps)
    (hBrace : CodePoint.char '\x7b' ∉ v) :
    Scanned (v.map Piece.literal ++ ps) := by
  induction v with
  | nil => exact hScanned
  | cons c cs ih =>
      rw [List.mem_cons, not_or] at hBrace
      refine .literal ?_ (ih hBrace.2)
      apply placeholderAt?_of_not_opening
      intro hOpen
      exact hBrace.1 (List.cons_prefix_cons.mp hOpen).1

/- The new row is what a scan of its text takes. -/
theorem Settled.scanned
    {ps qs : List Piece}
    (hSettled : Settled ps qs)
    (hScanned : Scanned ps) :
    Scanned qs := by
  induction hSettled with
  | nil => exact hScanned
  | literal c hRest ih =>
      cases hScanned with
      | literal hNone hTail =>
          exact .literal
            (hRest.placeholderAt?_eq_none hTail hNone)
            (ih hTail)
  | kept p hRest ih =>
      rename_i ps qs
      cases hScanned with
      | placeholder hFound hTail =>
          rename_i content
          refine .placeholder ?_ (ih hTail)
          rw [Placeholder.text_ofContent, List.append_assoc,
            List.append_assoc, placeholderAt?_opening,
            ← List.append_assoc] at hFound ⊢
          exact content?_append_closing hFound
            (Piece.texts qs)
  | filled p hBraceless hRest ih =>
      exact (ih hScanned.tail).append_literals hBraceless.1

------------------------------------------------------------
-- Two Tables of Bindings
------------------------------------------------------------

/-
  One table holds the values of a first, and those of a second
  for the names that have no value in the first.
-/
def Bindings.Overlays
    (m b₁ b₂ : Bindings) :
    Prop :=
  ∀ name,
    m.get? name =
      b₁.get? name >>= fun
        | some bound => .ok (some bound)
        | none => b₂.get? name

/- A table overlays itself. -/
theorem Bindings.overlays_self
    (b : Bindings) :
    b.Overlays b b := by
  intro name
  cases hGet : b.get? name with
  | error e => rfl
  | ok found =>
      cases found with
      | none => rfl
      | some bound => rfl

/- The value of a placeholder, if any, is rendered braceless. -/
def Bindings.RendersBraceless
    [Machine]
    (b : Bindings)
    (p : Placeholder) :
    Prop :=
  ∀ bound, b.get? p.name = .ok (some bound) →
    ∀ v, (bound.classify.render p.format).result = .ok v →
      Braceless v

/- Whether a name has no value in a table. -/
def Bindings.lacks
    (b : Bindings)
    (name : Text) :
    Bool :=
  match b.get? name with
  | .ok none => true
  | _ => false

theorem Bindings.lacks_of_none
    {b : Bindings}
    {name : Text}
    (hGet : b.get? name = .ok none) :
    b.lacks name = true := by
  rw [lacks, hGet]

theorem Bindings.lacks_of_some
    {b : Bindings}
    {name : Text}
    {bound : Binding}
    (hGet : b.get? name = .ok (some bound)) :
    b.lacks name = false := by
  rw [lacks, hGet]

/- The placeholders of a row, the first piece taken apart. -/
theorem Piece.placeholders_cons
    (piece : Piece)
    (ps : List Piece) :
    (piece :: ps).filterMap Piece.placeholder? =
      piece.placeholder?.toList ++
        ps.filterMap Piece.placeholder? := by
  cases piece with
  | literal c => rfl
  | placeholder p => rfl

@[simp] theorem Piece.placeholders_literals
    (literal : Text) :
    (literal.map Piece.literal).filterMap Piece.placeholder? =
      [] := by
  rw [List.filterMap_map]
  exact List.filterMap_none literal

/-
  Resolving a piece with a first table leaves a row in its place,
  which keeps the placeholder without a value and resolves with a
  second table as the piece does with both.
-/
theorem Piece.exists_left
    [Machine]
    {m b₁ b₂ : Bindings}
    {piece : Piece}
    {v : Text}
    (hOverlays : m.Overlays b₁ b₂)
    (hBraceless :
      ∀ p ∈ piece.placeholder?.toList, b₁.RendersBraceless p)
    (hValue : (piece.resolve b₁).result = .ok v) :
    ∃ rs : List Piece,
      (∀ {ps qs}, Settled ps qs →
        Settled (piece :: ps) (rs ++ qs)) ∧
      Piece.texts rs = v ∧
      rs.filterMap Piece.placeholder? =
        piece.placeholder?.toList.filter
          (fun p => b₁.lacks p.name) ∧
      ∀ qs, Piece.resolved b₂ (rs ++ qs) = do
        let w ← (piece.resolve m).result
        let rest ← Piece.resolved b₂ qs
        return w ++ rest := by
  cases piece with
  | literal c =>
      obtain rfl : [c] = v := Except.ok.inj hValue
      exact ⟨[.literal c], .literal c, rfl, rfl,
        fun qs => Piece.resolved_cons b₂ (.literal c) qs⟩
  | placeholder p =>
      have hOverlay := hOverlays p.name
      rw [Piece.result_resolve_placeholder,
        Placeholder.result_resolve_eq_ok_iff] at hValue
      rcases hValue with
        ⟨hGet, rfl⟩ | ⟨bound, hGet, hRender⟩
      · have hKept :
            [p].filter (fun p => b₁.lacks p.name) = [p] :=
          List.filter_cons_of_pos (Bindings.lacks_of_none hGet)
        refine ⟨[.placeholder p], .kept p,
          List.append_nil p.text, hKept.symm, fun qs => ?_⟩
        rw [hGet, Outcome.ok_bind] at hOverlay
        simp only [List.singleton_append, Piece.resolved_cons,
          Piece.result_resolve_placeholder,
          Placeholder.result_resolve, hOverlay]
      · have hPlain : Braceless v :=
          hBraceless p List.mem_cons_self bound hGet v hRender
        have hGone :
            [p].filter (fun p => b₁.lacks p.name) = [] :=
          List.filter_cons_of_neg
            (by simp [Bindings.lacks_of_some hGet])
        have hBoth : (p.resolve m).result = .ok v := by
          rw [Placeholder.result_resolve, hOverlay, hGet]
          exact hRender
        refine ⟨v.map Piece.literal, .filled p hPlain,
          Piece.texts_literals v, ?_, fun qs => ?_⟩
        · rw [Piece.placeholders_literals]
          exact hGone.symm
        · rw [Piece.resolved_literals,
            Piece.result_resolve_placeholder, hBoth]
          rfl

/-
  Resolving a row with a first table leaves a row that keeps the
  placeholders without values and resolves with a second table
  as the old row does with both.
-/
theorem Piece.exists_settled
    [Machine]
    {m b₁ b₂ : Bindings}
    {ps : List Piece}
    {u : Text}
    (hOverlays : m.Overlays b₁ b₂)
    (hBraceless :
      ∀ p ∈ ps.filterMap Piece.placeholder?,
        b₁.RendersBraceless p)
    (hFirst : Piece.resolved b₁ ps = .ok u) :
    ∃ qs, Settled ps qs ∧ Piece.texts qs = u ∧
      qs.filterMap Piece.placeholder? =
        (ps.filterMap Piece.placeholder?).filter
          (fun p => b₁.lacks p.name) ∧
      Piece.resolved b₂ qs = Piece.resolved m ps := by
  induction ps generalizing u with
  | nil => exact ⟨[], .nil, Except.ok.inj hFirst, rfl, rfl⟩
  | cons piece ps ih =>
      rw [Piece.resolved_cons] at hFirst
      rcases Outcome.bind_eq_ok_iff.mp hFirst with
        ⟨v, hValue, hTail⟩
      rcases Outcome.bind_eq_ok_iff.mp hTail with
        ⟨rest, hRest, hJoin⟩
      obtain rfl : v ++ rest = u := Except.ok.inj hJoin
      rw [Piece.placeholders_cons, List.forall_mem_append]
        at hBraceless
      rcases Piece.exists_left hOverlays hBraceless.1
          hValue with
        ⟨rs, hStep, rfl, hNames, hSame⟩
      rcases ih hBraceless.2 hRest with
        ⟨qs, hSettled, rfl, hLater, hResolved⟩
      refine ⟨rs ++ qs, hStep hSettled, ?_, ?_, ?_⟩
      · rw [Piece.texts_append]
      · rw [List.filterMap_append, hNames, hLater,
          Piece.placeholders_cons, List.filter_append]
      · rw [hSame, hResolved, Piece.resolved_cons]

/- A text that comes of resolving one is cut at what is kept. -/
theorem exists_pieces_of_resolve
    [Machine]
    {m b₁ b₂ : Bindings}
    {t : Text}
    {w : Value}
    (hOverlays : m.Overlays b₁ b₂)
    (hBraceless :
      ∀ p ∈ references (.text t), b₁.RendersBraceless p)
    (hFirst : (resolve (.text t) b₁).result = .ok w) :
    ∃ u, w = .text u ∧
      placeholders u =
        (placeholders t).filter (fun p => b₁.lacks p.name) ∧
      Piece.resolved b₂ (pieces u) =
        Piece.resolved m (pieces t) := by
  rw [result_resolve_text] at hFirst
  rcases Outcome.bind_eq_ok_iff.mp hFirst with
    ⟨u, hResolved, hValue⟩
  obtain rfl : Value.text u = w := Except.ok.inj hValue
  rcases Piece.exists_settled hOverlays hBraceless hResolved with
    ⟨qs, hSettled, rfl, hKept, hSame⟩
  have hPieces : pieces (Piece.texts qs) = qs :=
    (hSettled.scanned (scanned_pieces t)).pieces_eq
  refine ⟨_, rfl, ?_, ?_⟩
  · rw [placeholders, hPieces, hKept]
    rfl
  · rw [hPieces, hSame]

/-
  Resolving with a second table after a first one is resolving
  with both, where the first brings in no braces.
-/
theorem resolve_resolve
    [Machine]
    {m b₁ b₂ : Bindings}
    {v w : Value}
    (hOverlays : m.Overlays b₁ b₂)
    (hBraceless :
      ∀ p ∈ references v, b₁.RendersBraceless p)
    (hFirst : (resolve v b₁).result = .ok w) :
    (resolve w b₂).result = (resolve v m).result := by
  cases v with
  | text t =>
      rcases exists_pieces_of_resolve hOverlays hBraceless hFirst
        with ⟨u, rfl, _, hSame⟩
      rw [result_resolve_text, result_resolve_text, hSame]
  | _ =>
      obtain rfl := Except.ok.inj hFirst
      rfl

------------------------------------------------------------
-- References Left
------------------------------------------------------------

/-
  A value that comes of resolving one refers to the names that
  had no value, in the same order and in the same formats, where
  no braces are brought in.
-/
theorem references_resolve
    [Machine]
    {b : Bindings}
    {v w : Value}
    (hBraceless : ∀ p ∈ references v, b.RendersBraceless p)
    (hResolve : (resolve v b).result = .ok w) :
    references w =
      (references v).filter (fun p => b.lacks p.name) := by
  cases v with
  | text t =>
      rcases exists_pieces_of_resolve b.overlays_self hBraceless
          hResolve with
        ⟨u, rfl, hKept, _⟩
      exact hKept
  | _ =>
      obtain rfl := Except.ok.inj hResolve
      rfl

/-
  A value that is empty, between braces that are left open, and a
  placeholder without a value that is kept.
-/
theorem references_resolve_empty :
    let v : Value :=
      .text "\x7b\x7b\n\x7b\x7ba\x7d\x7d\x7b\x7bb|upper\x7d\x7d\x7d"
    let w : Value :=
      .text "\x7b\x7b\n\x7b\x7bb|upper\x7d\x7d\x7d"
    let b : Bindings :=
      .table [("a", .bound ⟨.string, .text ""⟩),
        ("b", .data .null)]
    (∀ p ∈ references v, b.RendersBraceless p) ∧
      (resolve v b).result = .ok w ∧
      references w = [.ofContent "b|upper"] := by
  intro v w b
  have hReferences :
      references v = [.ofContent "a", .ofContent "b|upper"] := by
    rfl
  have hBraceless :
      ∀ p ∈ references v, b.RendersBraceless p := by
    rw [hReferences]
    intro p hMember bound hGet t hRender
    rcases List.mem_pair.mp hMember with rfl | rfl
    · obtain rfl : Binding.bound ⟨.string, .text ""⟩ = bound :=
        Option.some.inj (Except.ok.inj hGet)
      obtain rfl : [] = t := Except.ok.inj hRender
      exact ⟨List.not_mem_nil, List.not_mem_nil⟩
    · exact absurd (Except.ok.inj hGet)
        (Option.some_ne_none bound).symm
  have hResolve : (resolve v b).result = .ok w := by
    rfl
  refine ⟨hBraceless, hResolve, ?_⟩
  rw [references_resolve hBraceless hResolve, hReferences]
  rfl

end LabelPress

import LabelPress.Machine.Usual
import LabelPress.Proofs.Stream.Emission
import LabelPress.Proofs.Substitution.Answers
import LabelPress.Proofs.Substitution.Frame

/-
  Substitution and layout.

  Nothing that places an element is changed when its texts are
  filled.  So it makes no difference whether elements are put into
  the order of depth before or after, and each lies on the same
  canvases as it did.

  Main declarations:
    * `Element.depth_of_placement`, `Element.isInside_of_placement`
    * `forall₂_inDepthOrder`
    * `sortByDepth_substitute`
-/

namespace LabelPress

variable {b : Bindings}

------------------------------------------------------------
-- Placements
------------------------------------------------------------

namespace Element

variable {e other : Element}

/- The depth of an element is one of its placement. -/
theorem depthKey_of_placement
    (hPlace : other.toPlacement = e.toPlacement) :
    depthKey other = depthKey e := by
  rw [depthKey, depthKey, hPlace]

theorem depth_of_placement
    (hPlace : other.toPlacement = e.toPlacement) :
    other.depth = e.depth := by
  rw [depth, depth, depthKey_of_placement hPlace]

/- What an element covers is decided by its placement. -/
theorem isInside_of_placement
    (hPlace : other.toPlacement = e.toPlacement)
    (canvas : Canvas) :
    other.isInside canvas = e.isInside canvas := by
  rw [isInside, isInside, bounds, bounds, hPlace]

end Element

/- Elements that are alike stay so in the order of depth. -/
theorem forall₂_inDepthOrder
    {R : Element → Element → Prop}
    (hDepth : ∀ e other, R e other → e.depth = other.depth)
    {es others : List Element}
    (hRows : List.Forall₂ R es others) :
    List.Forall₂ R (inDepthOrder es) (inDepthOrder others) := by
  have hKeyed :
      List.Forall₂
        (fun p q : Double × Element => p.1 = q.1 ∧ R p.2 q.2)
        (es.map fun e => (e.depth, e))
        (others.map fun e => (e.depth, e)) := by
    rw [List.forall₂_map_left_iff, List.forall₂_map_right_iff]
    exact hRows.imp fun e other hAlike =>
      ⟨hDepth e other hAlike, hAlike⟩
  have hOrdered :=
    forall₂_orderedByDepth (fun _ _ hBoth => hBoth.1) hKeyed
  rw [inDepthOrder, inDepthOrder, List.forall₂_map_left_iff,
    List.forall₂_map_right_iff]
  exact hOrdered.imp fun _ _ hBoth => hBoth.2

------------------------------------------------------------
-- Substitution
------------------------------------------------------------

theorem substitute_elements_eq_ok_iff
    [Machine]
    {es resolved : List Element} :
    (substitute (.entries (es.map .element)) b).result =
        .ok resolved ↔
      List.Forall₂
        (fun e next => (e.substitute b).result = .ok next)
        es resolved := by
  rw [result_substitute_elements, Outcome.mapM_eq_ok_iff_forall₂]

/-
  Where elements can be substituted and sorted, they can be sorted
  after they are substituted, and substituted after they are
  sorted, with the same elements in the same order.  Each lies on
  the canvases that it lay on, and its comparison with a canvas
  fails where it failed.
-/
theorem sortByDepth_substitute
    [Machine]
    {es sorted resolved : List Element}
    (hSorted : sortByDepth es = .ok sorted)
    (hResolved :
      (substitute (.entries (es.map .element)) b).result =
        .ok resolved) :
    (∃ both,
      sortByDepth resolved = .ok both ∧
        (substitute (.entries (sorted.map .element)) b).result =
          .ok both) ∧
      List.Forall₂
        (fun e next => ∀ canvas : Canvas,
          next.isInside canvas = e.isInside canvas)
        es resolved := by
  have hSteps := substitute_elements_eq_ok_iff.mp hResolved
  rcases sortByDepth_eq_ok_iff.mp hSorted with ⟨hDepths, rfl⟩
  have hPlaces :
      ∀ e next : Element, (e.substitute b).result = .ok next →
        next.toPlacement = e.toPlacement :=
    fun e next hStep =>
      (Element.resolves_of_substitute hStep).placement
  constructor
  · refine ⟨inDepthOrder resolved, ?_, ?_⟩
    · apply sortByDepth_eq_ok_iff.mpr
      have hBoth :=
        (List.forall₂_and_left es resolved).mpr ⟨hDepths, hSteps⟩
      have hLater :
          List.Forall₂
            (fun next e : Element =>
              (∃ z, depthKey next = .ok z) ∧
                (e.substitute b).result = .ok next)
            resolved es := by
        apply List.Forall₂.flip
        apply hBoth.imp
        rintro e next ⟨hDepth, hStep⟩
        refine ⟨?_, hStep⟩
        rw [Element.depthKey_of_placement (hPlaces e next hStep)]
        exact hDepth
      exact ⟨((List.forall₂_and_left resolved es).mp hLater).1, rfl⟩
    · apply substitute_elements_eq_ok_iff.mpr
      apply forall₂_inDepthOrder _ hSteps
      intro e next hStep
      exact (Element.depth_of_placement
        (hPlaces e next hStep)).symm
  · apply hSteps.imp
    intro e next hStep
    exact Element.isInside_of_placement (hPlaces e next hStep)

/-
  A text in front, two things of one depth behind it, and a text
  whose depth is no number.
-/
theorem sortByDepth_substitute_ties :
    let placeholder : Value := .text "\x7b\x7ba\x7d\x7d"
    let front (text : Value) : Element :=
      { x := .int (-5)
        zIndex := .int 2
        content := .text (.record { text }) }
    let line : Element :=
      { zIndex := .bool true, content := .line (.record {}) }
    let star (text : Value) : Element :=
      { zIndex := .text "1"
        content :=
          .unknown (.text "star") (.object [("data", text)]) }
    let lost (text : Value) : Element :=
      { zIndex := .null
        content := .barcode (.record { data := text }) }
    let b : Bindings := .table [("a", .data (.text "x"))]
    let es : List Element :=
      [front placeholder, line, star placeholder, lost placeholder]
    let sorted : List Element :=
      [lost placeholder, line, star placeholder, front placeholder]
    let resolved : List Element :=
      [front (.text "x"), line, star (.text "x"), lost (.text "x")]
    sortByDepth es = .ok sorted ∧
      (substitute (.entries (es.map .element)) b).result =
        .ok resolved ∧
      ∃ both,
        sortByDepth resolved = .ok both ∧
          (substitute (.entries (sorted.map .element)) b).result =
            .ok both := by
  intro placeholder front line star lost b es sorted resolved
  have hSorted : sortByDepth es = .ok sorted := by
    rfl
  have hResolved :
      (substitute (.entries (es.map .element)) b).result =
        .ok resolved := by
    rfl
  exact ⟨hSorted, hResolved,
    (sortByDepth_substitute hSorted hResolved).1⟩

end LabelPress

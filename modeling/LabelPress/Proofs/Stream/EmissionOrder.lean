import LabelPress.Machine.Usual
import LabelPress.Proofs.Stream.Emission
import Mathlib.Data.List.Forall2

/-
  The order of the blocks in a stream.

  Between its opening and its closing a stream has the block of
  each element once, by ascending depth, and the blocks of one
  depth in the order of the entries.  This order is all that the
  arrangement of the entries decides.

  Main declarations:
    * `Element.IsNotDeeper`, `Element.isAtDepth`
    * `InDepthOrder`, `inDepthOrder_spec`
    * `Entry.Reorders`, `Printer.blocks_eq_of_reorders`
    * `Printer.blocks_append`
    * `Printer.Emits`, `Printer.emits_blocks`
    * `Printer.emit_by_depth`
-/

namespace LabelPress

------------------------------------------------------------
-- Comparing Depths
------------------------------------------------------------

/- Whether the depth of an element equals a number. -/
def Element.isAtDepth
    (z : Double)
    (e : Element) :
    Bool :=
  match depthKey e with
  | .ok x => Double.compare? x z == some .eq
  | .error _ => false

/- Whether both elements have depths, the second no lower one. -/
def Element.IsNotDeeper
    (e other : Element) :
    Prop :=
  ∃ x y, depthKey e = .ok x ∧ depthKey other = .ok y ∧
    Double.le x y = true

namespace Entry

variable [Machine]

/- Whether the depth of the element of an entry is a number. -/
def isAtDepth
    (z : Double)
    (entry : Entry) :
    Bool :=
  entry.coerced?.any (Element.isAtDepth z)

/- Whether the elements of two entries may come in this order. -/
def IsNotDeeper
    (entry other : Entry) :
    Prop :=
  ∀ e e', entry.coerced? = some e →
    other.coerced? = some e' → e.IsNotDeeper e'

/-
  The same entries in another order, which keeps the order of
  those that have one depth.
-/
structure Reorders
    (other entries : List Entry) :
    Prop where
  perm : other.Perm entries
  ties :
    ∀ z, other.filter (isAtDepth z) =
      entries.filter (isAtDepth z)

end Entry

/- Depths are equal when they lie as many steps from zero. -/
theorem compare?_eq_some_eq
    {x z : Double}
    (hx : x.isNaN = false)
    (hz : z.isNaN = false) :
    (Double.compare? x z == some .eq) =
      decide (x.steps = z.steps) := by
  rw [Double.compare?_eq_steps hx hz, Bool.eq_iff_iff,
    beq_iff_eq, Option.some.injEq, compare_eq_iff_eq,
    decide_eq_true_eq]

theorem Element.isAtDepth_eq_atSteps
    {α : Type}
    {e : Element}
    {z : Double}
    (hDepth : ∃ x, depthKey e = .ok x)
    (hz : z.isNaN = false)
    (a : α) :
    e.isAtDepth z = atSteps z.steps (e.depth, a) := by
  rcases hDepth with ⟨x, hKey⟩
  rw [isAtDepth, hKey, depth_of_depthKey hKey, atSteps]
  exact compare?_eq_some_eq (depthKey_isNaN hKey) hz

theorem Element.isNotDeeper_iff
    {α : Type}
    {e other : Element}
    (hFirst : ∃ x, depthKey e = .ok x)
    (hSecond : ∃ y, depthKey other = .ok y)
    (a b : α) :
    e.IsNotDeeper other ↔
      NotDeeper (e.depth, a) (other.depth, b) := by
  rcases hFirst with ⟨x, hx⟩
  rcases hSecond with ⟨y, hy⟩
  have hOrder :
      Double.le x y = true ↔ x.steps ≤ y.steps :=
    Double.le_iff_steps (depthKey_isNaN hx)
      (depthKey_isNaN hy)
  rw [NotDeeper, depth_of_depthKey hx, depth_of_depthKey hy,
    ← hOrder]
  constructor
  · rintro ⟨x', y', hx', hy', hLe⟩
    obtain rfl : x = x' := Except.ok.inj (hx.symm.trans hx')
    obtain rfl : y = y' := Except.ok.inj (hy.symm.trans hy')
    exact hLe
  · intro hLe
    exact ⟨x, y, hx, hy, hLe⟩

------------------------------------------------------------
-- Elements in Order
------------------------------------------------------------

/-
  Elements by ascending depth: each of some elements once, and
  those of one depth as they came.
-/
structure InDepthOrder
    (sorted es : List Element) :
    Prop where
  perm : sorted.Perm es
  ascending : sorted.Pairwise Element.IsNotDeeper
  ties :
    ∀ z, sorted.filter (Element.isAtDepth z) =
      es.filter (Element.isAtDepth z)

/- What is undefined is the depth of no element. -/
theorem Element.isAtDepth_of_isNaN
    {z : Double}
    (hz : z.isNaN = true)
    (e : Element) :
    e.isAtDepth z = false := by
  cases z with
  | infinite s => cases hz
  | finite s m exponent hCanonical => cases hz
  | nan =>
      unfold isAtDepth
      cases depthKey e with
      | error f => rfl
      | ok x =>
          cases x with
          | _ => rfl

section Ordered

variable {es : List Element}

/- What is ordered by depth are elements under their depths. -/
theorem mem_orderedByDepth
    {q : Double × Element}
    (hMember :
      q ∈ orderedByDepth (es.map fun e => (e.depth, id e))) :
    q = (q.2.depth, q.2) ∧ q.2 ∈ es := by
  have hBefore :=
    (perm_orderedByDepth (haveDepths_map id es)).mem_iff.mp
      hMember
  rcases List.mem_map.mp hBefore with ⟨e, he, rfl⟩
  exact ⟨rfl, he⟩

theorem pairwise_inDepthOrder
    (hDepths : ∀ e ∈ es, ∃ z, depthKey e = .ok z) :
    (inDepthOrder es).Pairwise Element.IsNotDeeper := by
  apply List.pairwise_map.mpr
  apply (pairwise_orderedByDepth
    (haveDepths_map id es)).imp_of_mem
  intro q r hq hr hOrder
  rcases mem_orderedByDepth hq with ⟨hFirst, hFirstMember⟩
  rcases mem_orderedByDepth hr with ⟨hSecond, hSecondMember⟩
  rw [hFirst, hSecond] at hOrder
  exact (Element.isNotDeeper_iff (hDepths q.2 hFirstMember)
    (hDepths r.2 hSecondMember) q.2 r.2).mpr hOrder

theorem filter_inDepthOrder
    (hDepths : ∀ e ∈ es, ∃ z, depthKey e = .ok z)
    (z : Double) :
    (inDepthOrder es).filter (Element.isAtDepth z) =
      es.filter (Element.isAtDepth z) := by
  cases hz : z.isNaN with
  | true =>
      have hNone :
          Element.isAtDepth z = fun _ => false :=
        funext (Element.isAtDepth_of_isNaN hz)
      rw [hNone, List.filter_false, List.filter_false]
  | false =>
      have hTies := congrArg (List.map Prod.snd)
        (filter_orderedByDepth (haveDepths_map id es)
          z.steps)
      have hLeft :
          (inDepthOrder es).filter (Element.isAtDepth z) =
            ((orderedByDepth
              (es.map fun e => (e.depth, id e))).filter
              (atSteps z.steps)).map Prod.snd := by
        rw [inDepthOrder, List.filter_map]
        congr 1
        apply List.filter_congr
        intro q hIn
        rcases mem_orderedByDepth hIn with ⟨hPair, hMember⟩
        rw [hPair]
        exact Element.isAtDepth_eq_atSteps
          (hDepths q.2 hMember) hz q.2
      have hRight :
          es.filter (Element.isAtDepth z) =
            ((es.map fun e => (e.depth, id e)).filter
              (atSteps z.steps)).map Prod.snd := by
        rw [List.filter_map, List.map_map]
        change _ = (es.filter _).map id
        rw [List.map_id]
        apply List.filter_congr
        intro e he
        exact Element.isAtDepth_eq_atSteps
          (hDepths e he) hz e
      rw [hLeft, hTies, hRight]

/- Elements with depths are put into the order of depth. -/
theorem inDepthOrder_spec
    (hDepths : ∀ e ∈ es, ∃ z, depthKey e = .ok z) :
    InDepthOrder (inDepthOrder es) es where
  perm := perm_inDepthOrder es
  ascending := pairwise_inDepthOrder hDepths
  ties := filter_inDepthOrder hDepths

end Ordered

------------------------------------------------------------
-- Entries in Order
------------------------------------------------------------

namespace Printer

variable {p : Printer}
variable {entries other xs ys : List Entry}
variable {c : Canvas}

/- The keyed lines at a depth come from the entries at it. -/
theorem filter_keyedLines?
    [Machine]
    {z : Double}
    (hz : z.isNaN = false)
    (hPlaced : ∀ entry ∈ entries, entry.IsPlaced p c) :
    (entries.filterMap p.keyedLines?).filter
        (atSteps z.steps) =
      (entries.filter (Entry.isAtDepth z)).filterMap
        p.keyedLines? := by
  rw [List.filter_filterMap, List.filterMap_filter]
  apply List.filterMap_congr
  intro entry hMember
  have hDepths := (hPlaced entry hMember).element
  unfold keyedLines? Entry.isAtDepth
  cases hSome : entry.coerced? with
  | none => rfl
  | some e =>
      have hHere :=
        Element.isAtDepth_eq_atSteps (hDepths e hSome).depth hz
          (p.lines e)
      simp only [Option.map_some, Option.any_some, hHere,
        Option.filter_some]

/- Entries in another order have the same blocks. -/
theorem blocks_eq_of_reorders
    [Machine]
    (hReorders : Entry.Reorders other entries)
    (hPlaced : ∀ entry ∈ entries, entry.IsPlaced p c) :
    p.blocks other = p.blocks entries := by
  have hOther : ∀ entry ∈ other, entry.IsPlaced p c := by
    intro entry hMember
    exact hPlaced entry
      (hReorders.perm.mem_iff.mp hMember)
  rw [blocks, blocks]
  congr 1
  apply orderedByDepth_eq_of_filter_eq
    (p.haveDepths_keyedLines? other)
    (p.haveDepths_keyedLines? entries)
  intro n
  have hPerm :
      ((other.filterMap p.keyedLines?).filter
          (atSteps n)).Perm
        ((entries.filterMap p.keyedLines?).filter
          (atSteps n)) :=
    (hReorders.perm.filterMap p.keyedLines?).filter _
  -- a depth that is met is the depth of some entry
  cases hHere :
      (entries.filterMap p.keyedLines?).filter
        (atSteps n) with
  | nil =>
      rw [hHere] at hPerm
      exact hPerm.eq_nil
  | cons q rest =>
      have hMember :
          q ∈ (entries.filterMap p.keyedLines?).filter
            (atSteps n) := by
        rw [hHere]
        exact List.mem_cons_self
      rcases List.mem_filter.mp hMember with
        ⟨hKeyed, hSteps⟩
      have hz : q.1.isNaN = false :=
        p.haveDepths_keyedLines? entries q hKeyed
      have hn : q.1.steps = n := of_decide_eq_true hSteps
      rw [← hHere, ← hn, filter_keyedLines? hz hOther,
        filter_keyedLines? hz hPlaced, hReorders.ties]

/- Entries that are nowhere less deep have their blocks behind. -/
theorem blocks_append
    [Machine]
    (hPlaced : ∀ entry ∈ xs ++ ys, entry.IsPlaced p c)
    (hBelow : ∀ x ∈ xs, ∀ y ∈ ys, x.IsNotDeeper y) :
    p.blocks (xs ++ ys) = p.blocks xs ++ p.blocks ys := by
  have hOrder :
      ∀ q ∈ xs.filterMap p.keyedLines?,
        ∀ r ∈ ys.filterMap p.keyedLines?, NotDeeper q r := by
    intro q hq r hr
    rcases List.mem_filterMap.mp hq with ⟨x, hx, hKeyedX⟩
    rcases List.mem_filterMap.mp hr with ⟨y, hy, hKeyedY⟩
    rcases Option.map_eq_some_iff.mp hKeyedX with
      ⟨e, he, rfl⟩
    rcases Option.map_eq_some_iff.mp hKeyedY with
      ⟨e', he', rfl⟩
    have hFirst :=
      (hPlaced x (List.mem_append_left ys hx)).element e he
    have hSecond :=
      (hPlaced y (List.mem_append_right xs hy)).element e' he'
    exact (Element.isNotDeeper_iff hFirst.depth
      hSecond.depth _ _).mp
      (hBelow x hx y hy e e' he he')
  rw [blocks, List.filterMap_append,
    orderedByDepth_append (p.haveDepths_keyedLines? xs)
      (p.haveDepths_keyedLines? ys) hOrder,
    List.map_append]
  rfl

------------------------------------------------------------
-- Streams
------------------------------------------------------------

/-
  What the stream of entries on a canvas consists of: opening
  lines, and a block for each element in the order of depth.
-/
structure Emits
    [Machine]
    (p : Printer)
    (entries : List Entry)
    (canvas : CanvasSource)
    (opening : List Text)
    (blocks : List (List Text)) :
    Prop where
  opens :
    ∃ c, Canvas.ofSource canvas = .ok c ∧
      p.opening c = .ok opening
  encodes :
    ∃ es sorted,
      (coerceEntries entries).result = .ok es ∧
        InDepthOrder sorted es ∧
        List.Forall₂
          (fun e block => (p.encode e).result = .ok block)
          sorted blocks
  code :
    (p.emit (.entries entries) canvas).result =
      .ok (joined (opening ++ blocks.flatten ++ p.closing))

/- Placed entries on a canvas are emitted in blocks. -/
theorem emits_blocks
    [Machine]
    {canvas : CanvasSource}
    {opening : List Text}
    (hCanvas : Canvas.ofSource canvas = .ok c)
    (hOpening : p.opening c = .ok opening)
    (hPlaced : ∀ entry ∈ entries, entry.IsPlaced p c)
    (hClosing : p.checkClosing = .ok ()) :
    p.Emits entries canvas opening (p.blocks entries) := by
  rcases exists_coerceFrom
      (fun entry hMember => (hPlaced entry hMember).coerces) 0 with
    ⟨es, hCoerced⟩
  have hElements := (forall_isPlaced_iff hCoerced).mpr hPlaced
  refine ⟨⟨c, hCanvas, hOpening⟩,
    ⟨es, inDepthOrder es, hCoerced, ?_, ?_⟩, ?_⟩
  · apply inDepthOrder_spec
    intro e hMember
    exact (hElements e hMember).depth
  · rw [← map_lines_inDepthOrder p hCoerced,
      List.forall₂_map_right_iff, List.forall₂_same]
    intro e hMember
    exact (hElements e
      ((perm_inDepthOrder es).mem_iff.mp hMember)).result_encode
  · exact emit_eq_ok_iff.mpr
      ⟨c, opening, hCanvas, hOpening, hPlaced, hClosing, rfl⟩

/-
  A stream has the block of each element once, by ascending
  depth.  Entries in another order that keeps ties have the same
  stream; entries followed by ones that are nowhere less deep
  have the blocks of both, one after the other; and on another
  canvas the blocks are the same.
-/
theorem emit_by_depth
    [Machine]
    {canvas : CanvasSource}
    {code : Text}
    (hCode :
      (p.emit (.entries entries) canvas).result = .ok code) :
    ∃ opening blocks,
      p.Emits entries canvas opening blocks ∧
        (∀ other, Entry.Reorders other entries →
          (p.emit (.entries other) canvas).result =
            .ok code) ∧
        (∀ xs ys, entries = xs ++ ys →
          (∀ x ∈ xs, ∀ y ∈ ys, x.IsNotDeeper y) →
            ∃ upper lower, blocks = upper ++ lower ∧
              p.Emits xs canvas opening upper ∧
              p.Emits ys canvas opening lower) ∧
        (∀ elsewhere moved,
          (p.emit (.entries entries) elsewhere).result =
              .ok moved →
            ∃ start, p.Emits entries elsewhere start blocks) := by
  rcases emit_eq_ok_iff.mp hCode with
    ⟨c, opening, hCanvas, hOpening, hPlaced, hClosing, hLines⟩
  refine ⟨opening, p.blocks entries,
    emits_blocks hCanvas hOpening hPlaced hClosing, ?_, ?_, ?_⟩
  · intro other hReorders
    apply emit_eq_ok_iff.mpr
    refine ⟨c, opening, hCanvas, hOpening, ?_, hClosing, ?_⟩
    · intro entry hMember
      exact hPlaced entry
        (hReorders.perm.mem_iff.mp hMember)
    · rw [blocks_eq_of_reorders hReorders hPlaced, hLines]
  · rintro xs ys rfl hBelow
    refine ⟨p.blocks xs, p.blocks ys,
      blocks_append hPlaced hBelow, ?_, ?_⟩
    · refine emits_blocks hCanvas hOpening ?_ hClosing
      intro entry hMember
      exact hPlaced entry (List.mem_append_left ys hMember)
    · refine emits_blocks hCanvas hOpening ?_ hClosing
      intro entry hMember
      exact hPlaced entry (List.mem_append_right xs hMember)
  · intro elsewhere moved hMoved
    rcases emit_eq_ok_iff.mp hMoved with
      ⟨d, start, hElsewhere, hStart, hThere, _, _⟩
    exact ⟨start, emits_blocks hElsewhere hStart hThere hClosing⟩

/- An element on top of two others, first in front of one. -/
theorem emit_by_depth_swapped :
    let p : Printer :=
      ⟨.epl {
        scale := ⟨.int 203, 203, .dots, rfl⟩
        speed := .int 4
        density := .int 1
        copies := .int 1
        gap := .int 26 }⟩
    let upper : Entry :=
      .object [("type", .text "box"), ("zIndex", .int 2)]
    let first : Entry :=
      .object [("type", .text "line"), ("x", .int 1)]
    let second : Entry :=
      .object [("type", .text "line"), ("zIndex", .text "-0")]
    let code : Text :=
      joined ["N", "S4", "D1", "ZT", "q400", "Q300,26",
        "LO1,0,0,2", "LO0,0,0,2", "X0,0,2,0,0", "P1"]
    (p.emit (.entries [upper, first, second])
        (.data .null)).result = .ok code ∧
      (p.emit (.entries [first, upper, second])
        (.data .null)).result = .ok code := by
  intro p upper first second code
  have hCode :
      (p.emit (.entries [upper, first, second])
        (.data .null)).result = .ok code := by
    simp only [p, upper, first, second, code]
    decide +kernel
  have hApart :
      ∀ z, Entry.isAtDepth z upper = true →
        Entry.isAtDepth z first = false := by
    intro z hUpper
    change (Double.compare? 2 z == some .eq) = true at hUpper
    change (Double.compare? 0 z == some .eq) = false
    cases hz : z.isNaN with
    | true =>
        cases z with
        | nan => rfl
        | infinite s => cases hz
        | finite s m exponent hCanonical => cases hz
    | false =>
        rw [compare?_eq_some_eq rfl hz] at hUpper ⊢
        rw [← of_decide_eq_true hUpper]
        rfl
  have hReorders :
      Entry.Reorders [first, upper, second]
        [upper, first, second] := by
    refine ⟨List.Perm.swap upper first [second], ?_⟩
    intro z
    cases hUpper : Entry.isAtDepth z upper with
    | true => simp [List.filter_cons, hApart z hUpper]
    | false => simp [List.filter_cons, hUpper]
  rcases emit_by_depth hCode with ⟨_, _, _, hReordered, _⟩
  exact ⟨hCode, hReordered _ hReorders⟩

end Printer

end LabelPress

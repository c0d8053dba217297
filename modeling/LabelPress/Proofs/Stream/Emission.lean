import LabelPress.Proofs.Label.Coercion
import LabelPress.Proofs.Stream.DepthOrder

/-
  What an emission consists of.

  An emission answers exactly when the canvas can be read, the
  label can be opened and closed, and each entry by itself can be
  read and placed.  Its code is made of the lines of single
  entries, put into the order of depth; neither the positions of
  the entries nor the canvas has a part in these lines.

  Main declarations:
    * `Printer.lines`, `Printer.result_encode`
    * `Printer.ofSource_name`
    * `Element.IsPlaced`, `Entry.IsPlaced`
    * `Printer.blocks`
    * `Printer.emit_elements_eq_ok_iff`
    * `Printer.emit_eq_ok_iff`
-/

namespace LabelPress

------------------------------------------------------------
-- Depths
------------------------------------------------------------

namespace Element

/- The depth of an element, zero if it has none. -/
def depth
    (e : Element) :
    Double :=
  match depthKey e with
  | .ok z => z
  | .error _ => 0

theorem depth_of_depthKey
    {e : Element}
    {z : Double}
    (hKey : depthKey e = .ok z) :
    e.depth = z := by
  rw [depth, hKey]

theorem depthKey_isNaN
    {e : Element}
    {z : Double}
    (hKey : depthKey e = .ok z) :
    z.isNaN = false := by
  rw [depthKey] at hKey
  rcases Outcome.bind_eq_ok_iff.mp hKey with ⟨x, _, hDefined⟩
  obtain rfl : definedOrZero x = z := Except.ok.inj hDefined
  cases x with
  | _ => rfl

theorem depth_isNaN
    (e : Element) :
    e.depth.isNaN = false := by
  unfold depth
  cases hKey : depthKey e with
  | error f => rfl
  | ok z => exact depthKey_isNaN hKey

@[simp] theorem depth_unnamed
    (e : Element) :
    e.unnamed.depth = e.depth :=
  rfl

end Element

theorem withDepths_eq_ok_iff
    {es : List Element}
    {keyed : List (Double × Element)} :
    withDepths es = .ok keyed ↔
      (∀ e ∈ es, ∃ z, depthKey e = .ok z) ∧
        keyed = es.map fun e => (e.depth, e) := by
  induction es generalizing keyed with
  | nil => simp [withDepths, eq_comm]
  | cons e es ih =>
      rw [withDepths, Outcome.bind_eq_ok_iff,
        List.forall_mem_cons]
      constructor
      · rintro ⟨z, hKey, hRest⟩
        rcases Outcome.bind_eq_ok_iff.mp hRest with
          ⟨rest, hLater, hAll⟩
        obtain rfl : (z, e) :: rest = keyed :=
          Except.ok.inj hAll
        rcases ih.mp hLater with ⟨hDepths, rfl⟩
        refine ⟨⟨⟨z, hKey⟩, hDepths⟩, ?_⟩
        rw [List.map_cons, Element.depth_of_depthKey hKey]
      · rintro ⟨⟨⟨z, hKey⟩, hDepths⟩, rfl⟩
        refine ⟨z, hKey, ?_⟩
        rw [ih.mpr ⟨hDepths, rfl⟩, List.map_cons,
          Element.depth_of_depthKey hKey]
        rfl

/- Elements in the order of depth. -/
def inDepthOrder
    (es : List Element) :
    List Element :=
  (orderedByDepth (es.map fun e => (e.depth, e))).map
    Prod.snd

theorem haveDepths_map
    {α : Type}
    (f : Element → α)
    (es : List Element) :
    HaveDepths (es.map fun e => (e.depth, f e)) := by
  intro p hMember
  rcases List.mem_map.mp hMember with ⟨e, _, rfl⟩
  exact e.depth_isNaN

theorem perm_inDepthOrder
    (es : List Element) :
    (inDepthOrder es).Perm es := by
  have hPerm :=
    (perm_orderedByDepth (haveDepths_map id es)).map Prod.snd
  rw [List.map_map] at hPerm
  simpa [inDepthOrder, Function.comp_def] using hPerm

theorem sortByDepth_eq_ok_iff
    {es sorted : List Element} :
    sortByDepth es = .ok sorted ↔
      (∀ e ∈ es, ∃ z, depthKey e = .ok z) ∧
        sorted = inDepthOrder es := by
  rw [sortByDepth, Outcome.bind_eq_ok_iff]
  constructor
  · rintro ⟨keyed, hKeyed, hSorted⟩
    rcases withDepths_eq_ok_iff.mp hKeyed with
      ⟨hDepths, rfl⟩
    exact ⟨hDepths, (Except.ok.inj hSorted).symm⟩
  · rintro ⟨hDepths, rfl⟩
    exact ⟨_, withDepths_eq_ok_iff.mpr ⟨hDepths, rfl⟩, rfl⟩

------------------------------------------------------------
-- Lines of Elements
------------------------------------------------------------

namespace Printer

variable [Machine]

/- The lines of an element, none where its block fails. -/
def lines
    (p : Printer)
    (e : Element) :
    List Text :=
  match (p.encode e).result with
  | .ok block => block
  | .error _ => []

theorem lines_of_encode
    {p : Printer}
    {e : Element}
    {block : List Text}
    (hBlock : (p.encode e).result = .ok block) :
    p.lines e = block := by
  rw [lines, hBlock]

/- A skipped element has no lines, unless it ends everything. -/
theorem result_skip
    (e : Element)
    (f : Fault) :
    (skip e f).result = .ok [] ∨
      (skip e f).result = .error .nestedTooDeep := by
  unfold skip
  split_ifs with hDeep
  · rw [hDeep]
    exact .inr rfl
  · rw [Outcome.result_bind, Outcome.result_noteShowing]
    split_ifs with hShown
    · exact .inr rfl
    · exact .inl rfl

/- An element of no known type has no lines. -/
theorem result_encode_of_unknown
    (p : Printer)
    {e : Element}
    (hUnknown : ¬ hasKnownType e = true) :
    (p.encode e).result = .ok [] := by
  rw [encode, if_neg hUnknown, Outcome.result_bind,
    Outcome.result_noteShown]
  rfl

/- Encoding an element answers, unless a value is too deep. -/
theorem result_encode
    (p : Printer)
    (e : Element) :
    (p.encode e).result = .ok (p.lines e) ∨
      (p.encode e).result = .error .nestedTooDeep := by
  have hAnswer :
      (∃ block, (p.encode e).result = .ok block) ∨
        (p.encode e).result = .error .nestedTooDeep := by
    by_cases hKnown : hasKnownType e = true
    · rw [encode, if_pos hKnown]
      cases p.block e with
      | error f => exact (result_skip e f).imp_left fun h => ⟨[], h⟩
      | ok block => exact .inl ⟨block, rfl⟩
    · exact .inl ⟨[], result_encode_of_unknown p hKnown⟩
  rcases hAnswer with ⟨block, hBlock⟩ | hDeep
  · rw [lines_of_encode hBlock]
    exact .inl hBlock
  · exact .inr hDeep

/- What is known of a block is known of the lines. -/
theorem forall_mem_lines
    {p : Printer}
    {e : Element}
    {P : Text → Prop}
    (hBlock :
      Outcome.Yields (fun lines => ∀ line ∈ lines, P line)
        (p.block e)) :
    ∀ line ∈ p.lines e, P line := by
  by_cases hKnown : hasKnownType e = true
  · rw [lines, encode, if_pos hKnown]
    cases hWritten : p.block e with
    | ok written => exact hBlock written hWritten
    | error f =>
        dsimp only
        rcases result_skip e f with hSkipped | hDeep
        · rw [hSkipped]
          exact List.forall_mem_nil P
        · rw [hDeep]
          exact List.forall_mem_nil P
  · rw [lines_of_encode (result_encode_of_unknown p hKnown)]
    exact List.forall_mem_nil P

/- A text for an id has no part in how an element is encoded. -/
theorem result_encode_unnamed
    (p : Printer)
    (e : Element) :
    (p.encode e.unnamed).result = (p.encode e).result := by
  have hBlock : p.block e.unnamed = p.block e := by
    unfold block
    cases p.options with
    | _ =>
        cases e with
        | mk place content =>
            cases content with
            | _ => rfl
  have hSkip (f : Fault) :
      (skip e.unnamed f).result = (skip e f).result := by
    unfold skip
    split_ifs with hDeep
    · rfl
    · simp only [Outcome.result_bind, Outcome.result_noteShowing,
        e.checkShown_unnamed]
  have hKnown : hasKnownType e.unnamed = hasKnownType e := rfl
  by_cases hHere : hasKnownType e = true
  · rw [encode, encode, hBlock, hKnown, if_pos hHere, if_pos hHere]
    cases p.block e with
    | error f => exact hSkip f
    | ok block => rfl
  · rw [result_encode_of_unknown p hHere, result_encode_of_unknown]
    rwa [hKnown]

/- The id of an element is in none of its lines. -/
@[simp] theorem lines_unnamed
    (p : Printer)
    (e : Element) :
    p.lines e.unnamed = p.lines e := by
  rw [lines, result_encode_unnamed, lines]

/- On a canvas an element is encoded as it is elsewhere. -/
theorem encode_of_encodeOn
    {p : Printer}
    {canvas : Canvas}
    {e : Element}
    {block : List Text}
    (hBlock : (p.encodeOn canvas e).result = .ok block) :
    (p.encode e).result = .ok block := by
  unfold encodeOn at hBlock
  rw [Outcome.result_bind] at hBlock
  rcases Outcome.bind_eq_ok_iff.mp hBlock with ⟨inside, _, hRest⟩
  cases inside with
  | true => exact hRest
  | false =>
      change
        (Outcome.noteShowing _ _ >>= fun _ =>
          p.encode e).result = _ at hRest
      rw [Outcome.result_bind] at hRest
      rcases Outcome.bind_eq_ok_iff.mp hRest with ⟨_, _, hEncode⟩
      exact hEncode

theorem result_encodeOn_unnamed
    (p : Printer)
    (canvas : Canvas)
    (e : Element) :
    (p.encodeOn canvas e.unnamed).result =
      (p.encodeOn canvas e).result := by
  have hInside : e.unnamed.isInside canvas = e.isInside canvas := rfl
  unfold encodeOn
  simp only [Outcome.result_bind, Outcome.result_liftM, hInside]
  cases e.isInside canvas with
  | error f => rfl
  | ok inside =>
      cases inside with
      | true => exact result_encode_unnamed p e
      | false =>
          simp only [Bool.not_false, if_true, Outcome.ok_bind,
            Outcome.result_bind, Outcome.result_noteShowing,
            e.checkShown_unnamed, result_encode_unnamed]

end Printer

------------------------------------------------------------
-- Languages
------------------------------------------------------------

theorem Protocol.ofText?_name
    (protocol : Protocol) :
    ofText? protocol.name = some protocol := by
  cases protocol with
  | _ => decide +kernel

/- The name of a language names its printer. -/
theorem Printer.ofSource_name
    [Machine]
    (protocol : Protocol)
    (options : OptionSource) :
    ofSource (.text protocol.name) options =
      PrinterOptions.ofSource protocol options >>=
        fun o => pure ⟨o⟩ := by
  have hName :
      Protocol.ofText? (Value.text protocol.name).toText =
        some protocol :=
    Protocol.ofText?_name protocol
  unfold ofSource
  simp only [hName]
  rfl

------------------------------------------------------------
-- Placed Entries
------------------------------------------------------------

/-
  Whether an element stops no emission of a printer on a canvas:
  it has a depth, and it can be compared with the canvas and is
  encoded or skipped.
-/
structure Element.IsPlaced
    [Machine]
    (e : Element)
    (p : Printer)
    (canvas : Canvas) :
    Prop where
  depth : ∃ z, depthKey e = .ok z
  block : ∃ lines, (p.encodeOn canvas e).result = .ok lines

/- An element that is placed is encoded. -/
theorem Element.IsPlaced.result_encode
    [Machine]
    {e : Element}
    {p : Printer}
    {canvas : Canvas}
    (hPlaced : e.IsPlaced p canvas) :
    (p.encode e).result = .ok (p.lines e) := by
  rcases hPlaced.block with ⟨block, hBlock⟩
  have hEncode := Printer.encode_of_encodeOn hBlock
  rw [Printer.lines_of_encode hEncode]
  exact hEncode

theorem Element.isPlaced_unnamed
    [Machine]
    {e : Element}
    {p : Printer}
    {canvas : Canvas} :
    e.unnamed.IsPlaced p canvas ↔ e.IsPlaced p canvas := by
  constructor
  · rintro ⟨hDepth, hBlock⟩
    rw [p.result_encodeOn_unnamed] at hBlock
    exact ⟨hDepth, hBlock⟩
  · rintro ⟨hDepth, hBlock⟩
    rw [← p.result_encodeOn_unnamed] at hBlock
    exact ⟨hDepth, hBlock⟩

/-
  Whether an entry stops no emission of a printer on a canvas: it
  can be read, and its element, if it has one, is placed.
-/
structure Entry.IsPlaced
    [Machine]
    (entry : Entry)
    (p : Printer)
    (canvas : Canvas) :
    Prop where
  coerces : entry.Coerces
  element : ∀ e, entry.coerced? = some e → e.IsPlaced p canvas

/- Entries are placed when their elements are. -/
theorem forall_isPlaced_iff
    [Machine]
    {p : Printer}
    {canvas : Canvas}
    {entries : List Entry}
    {es : List Element}
    (hCoerced : (coerceEntries entries).result = .ok es) :
    (∀ e ∈ es, e.IsPlaced p canvas) ↔
      ∀ entry ∈ entries, entry.IsPlaced p canvas := by
  rcases coerceFrom_unnamed hCoerced with ⟨hCoerces, hSame⟩
  have hElements :
      (∀ e ∈ es, e.IsPlaced p canvas) ↔
        ∀ e ∈ entries.filterMap Entry.coerced?,
          e.IsPlaced p canvas := by
    have hUnnamed :
        ∀ row : List Element,
          (∀ e ∈ row, e.IsPlaced p canvas) ↔
            ∀ e ∈ row.map Element.unnamed,
              e.IsPlaced p canvas := by
      intro row
      simp only [List.forall_mem_map,
        Element.isPlaced_unnamed]
    rw [hUnnamed es, hSame, ← hUnnamed]
  rw [hElements]
  constructor
  · intro hPlaced entry hMember
    refine ⟨hCoerces entry hMember, fun e hSome => ?_⟩
    exact hPlaced e
      (List.mem_filterMap.mpr ⟨entry, hMember, hSome⟩)
  · intro hPlaced e hMember
    rcases List.mem_filterMap.mp hMember with
      ⟨entry, hEntry, hSome⟩
    exact (hPlaced entry hEntry).element e hSome

namespace Printer

variable [Machine]

/- The depth and the lines of the element of an entry. -/
def keyedLines?
    (p : Printer)
    (entry : Entry) :
    Option (Double × List Text) :=
  entry.coerced?.map fun e => (e.depth, p.lines e)

/- The lines of entries in the order of depth. -/
def blocks
    (p : Printer)
    (entries : List Entry) :
    List (List Text) :=
  (orderedByDepth (entries.filterMap p.keyedLines?)).map
    Prod.snd

theorem haveDepths_keyedLines?
    (p : Printer)
    (entries : List Entry) :
    HaveDepths (entries.filterMap p.keyedLines?) := by
  intro q hMember
  rcases List.mem_filterMap.mp hMember with
    ⟨entry, _, hKeyed⟩
  rcases Option.map_eq_some_iff.mp hKeyed with ⟨e, _, rfl⟩
  exact e.depth_isNaN

/- The lines of entries are those of their elements. -/
theorem mem_flatten_blocks
    {p : Printer}
    {entries : List Entry}
    {line : Text} :
    line ∈ (p.blocks entries).flatten ↔
      ∃ entry ∈ entries, ∃ e,
        entry.coerced? = some e ∧ line ∈ p.lines e := by
  have hPerm :=
    perm_orderedByDepth (p.haveDepths_keyedLines? entries)
  rw [List.mem_flatten]
  constructor
  · rintro ⟨block, hBlock, hLine⟩
    rcases List.mem_map.mp hBlock with ⟨q, hOrdered, rfl⟩
    rcases List.mem_filterMap.mp (hPerm.mem_iff.mp hOrdered)
      with ⟨entry, hEntry, hKeyed⟩
    rcases Option.map_eq_some_iff.mp hKeyed with ⟨e, he, rfl⟩
    exact ⟨entry, hEntry, e, he, hLine⟩
  · rintro ⟨entry, hEntry, e, he, hLine⟩
    have hKeyed :
        p.keyedLines? entry = some (e.depth, p.lines e) := by
      rw [keyedLines?, he]
      rfl
    have hOrdered :=
      hPerm.mem_iff.mpr
        (List.mem_filterMap.mpr ⟨entry, hEntry, hKeyed⟩)
    exact ⟨p.lines e, List.mem_map_of_mem hOrdered, hLine⟩

/-
  The lines of the elements of entries are the lines of the
  entries, whatever the positions made of the ids.
-/
theorem map_lines_inDepthOrder
    (p : Printer)
    {entries : List Entry}
    {es : List Element}
    (hCoerced : (coerceEntries entries).result = .ok es) :
    (inDepthOrder es).map p.lines = p.blocks entries := by
  have hKeyed :
      (es.map fun e => (e.depth, p.lines e)) =
        entries.filterMap p.keyedLines? := by
    have hSame := congrArg
      (List.map fun e => (e.depth, p.lines e))
      (coerceFrom_unnamed hCoerced).2
    simp only [List.map_map, Function.comp_def,
      Element.depth_unnamed, lines_unnamed,
      List.map_filterMap, Option.map_map] at hSame
    exact hSame
  have hOrder :=
    orderedByDepth_map p.lines (es.map fun e => (e.depth, e))
  rw [List.map_map] at hOrder
  rw [blocks, ← hKeyed, inDepthOrder, List.map_map]
  change (orderedByDepth _).map _ =
    (orderedByDepth
      (es.map ((fun q => (q.1, p.lines q.2)) ∘
        fun e => (e.depth, e)))).map Prod.snd
  rw [hOrder, List.map_map]
  rfl

------------------------------------------------------------
-- Emission
------------------------------------------------------------

variable {p : Printer}
variable {canvas : CanvasSource}
variable {code : Text}

/- An emission answers when elements can be read and placed. -/
theorem emit_elements_eq_ok_iff
    {entries : List Entry} :
    (p.emit (.entries entries) canvas).result = .ok code ↔
      ∃ c opening es,
        Canvas.ofSource canvas = .ok c ∧
          p.opening c = .ok opening ∧
          (coerceEntries entries).result = .ok es ∧
          (∀ e ∈ es, e.IsPlaced p c) ∧
          p.checkClosing = .ok () ∧
          code =
            joined
              (opening ++
                ((inDepthOrder es).map p.lines).flatten ++
                p.closing) := by
  have hLines (c : Canvas) :
      (fun e => (p.encodeOn c e).result) = fun e =>
        (p.encodeOn c e).result >>= fun _ => .ok (p.lines e) := by
    funext e
    cases hBlock : (p.encodeOn c e).result with
    | error f => rfl
    | ok block =>
        exact congrArg Except.ok
          (lines_of_encode (encode_of_encodeOn hBlock)).symm
  unfold emit
  simp only [Outcome.result_bind, Outcome.result_liftM,
    Outcome.result_pure, Outcome.result_each,
    hLines, EntrySource.entries?, Outcome.ok_bind,
    Outcome.bind_eq_ok_iff]
  constructor
  · rintro ⟨c, hCanvas, opening, hOpening, es, hCoerced,
      sorted, hSorted, blocks, hBlocks, _, hClosing, hCode⟩
    rcases sortByDepth_eq_ok_iff.mp hSorted with
      ⟨hDepths, rfl⟩
    rcases Outcome.mapM_then_eq_ok_iff.mp hBlocks with
      ⟨hEncoded, rfl⟩
    refine ⟨c, opening, es, hCanvas, hOpening, hCoerced, ?_,
      hClosing, (Except.ok.inj hCode).symm⟩
    intro e hMember
    exact ⟨hDepths e hMember,
      hEncoded e ((perm_inDepthOrder es).mem_iff.mpr hMember)⟩
  · rintro ⟨c, opening, es, hCanvas, hOpening, hCoerced,
      hPlaced, hClosing, rfl⟩
    refine ⟨c, hCanvas, opening, hOpening, es, hCoerced,
      inDepthOrder es, ?_, _, ?_, (), hClosing, rfl⟩
    · apply sortByDepth_eq_ok_iff.mpr
      exact ⟨fun e hMember => (hPlaced e hMember).depth, rfl⟩
    · apply Outcome.mapM_then_eq_ok_iff.mpr
      refine ⟨?_, rfl⟩
      intro e hMember
      exact (hPlaced e
        ((perm_inDepthOrder es).mem_iff.mp hMember)).block

/-
  An emission answers when the entries are placed one by one,
  and its code has their lines in the order of depth.
-/
theorem emit_eq_ok_iff
    {entries : List Entry} :
    (p.emit (.entries entries) canvas).result = .ok code ↔
      ∃ c opening,
        Canvas.ofSource canvas = .ok c ∧
          p.opening c = .ok opening ∧
          (∀ entry ∈ entries, entry.IsPlaced p c) ∧
          p.checkClosing = .ok () ∧
          code =
            joined
              (opening ++ (p.blocks entries).flatten ++
                p.closing) := by
  rw [emit_elements_eq_ok_iff]
  constructor
  · rintro ⟨c, opening, es, hCanvas, hOpening, hCoerced,
      hPlaced, hClosing, rfl⟩
    refine ⟨c, opening, hCanvas, hOpening, ?_, hClosing, ?_⟩
    · exact (forall_isPlaced_iff hCoerced).mp hPlaced
    · rw [map_lines_inDepthOrder p hCoerced]
  · rintro ⟨c, opening, hCanvas, hOpening, hPlaced, hClosing, rfl⟩
    rcases exists_coerceFrom
        (fun entry hMember => (hPlaced entry hMember).coerces) 0 with
      ⟨es, hCoerced⟩
    refine ⟨c, opening, es, hCanvas, hOpening, hCoerced, ?_,
      hClosing, ?_⟩
    · exact (forall_isPlaced_iff hCoerced).mpr hPlaced
    · rw [map_lines_inDepthOrder p hCoerced]

end Printer

end LabelPress

import LabelPress.Machine.Usual
import LabelPress.Proofs.Stream.Emission

/-
  Entries that leave no trace in a stream.

  An entry without an element, or whose element has no lines, can
  be taken out of a list: the later entries move up and get other
  default ids, but the stream stays the same.

  Main declarations:
    * `Content.IsBlank`, `Printer.lacks`
    * `Printer.IsMute`, `Printer.eq_nil_iff_of_encode`
    * `Printer.IsSilent`
    * `Printer.flatten_blocks_of_isSilent`
    * `Printer.emit_without_silent`
-/

namespace LabelPress

open Outcome (Yields yields_ok yields_bind)

------------------------------------------------------------
-- Elements without Lines
------------------------------------------------------------

/- Whether a content has nothing to print in any language. -/
def Content.IsBlank :
    Content → Prop
  | .barcode (.record q) =>
      Symbology.ofValue? q.symbology = none
  | .image (.record q) => q.src.truthy = false
  | .unknown .. => True
  | .bare => True
  | _ => False

/- Whether the language of a printer lacks a shape. -/
def Printer.lacks
    (p : Printer)
    (content : Content) :
    Bool :=
  match p.options, content with
  | .epl _, .circle _ => true
  | .dpl _, .line _ => true
  | .dpl _, .box _ => true
  | .dpl _, .circle _ => true
  | .dpl _, .image _ => true
  | _, _ => false

section Blocks

variable {α : Type}
variable {scale : Scale}
variable {place : Placement}

/- One thing is never none. -/
theorem singleton_ne_nil
    (r : Except Fault α) :
    (r >>= fun a => .ok [a]) ≠ .ok [] := by
  intro hNil
  rcases Outcome.bind_eq_ok_iff.mp hNil with ⟨a, _, hSame⟩
  exact List.cons_ne_nil a [] (Except.ok.inj hSame)

/- At most one thing is none when there is none. -/
theorem toList_eq_nil_iff
    {r : Except Fault (Option α)} :
    (r >>= fun a? => .ok a?.toList) = .ok [] ↔
      r = .ok none := by
  cases r with
  | error f => simp
  | ok a? =>
      cases a? with
      | none => simp
      | some a => simp

theorem Zpl.boxFields_ne_nil
    [Machine]
    (stored : Stored BoxProperties) :
    Zpl.boxFields scale place stored ≠ .ok [] := by
  intro hNil
  have hSome :
      Yields (fun fields => fields ≠ [])
        (Zpl.boxFields scale place stored) :=
    yields_bind fun _ => yields_bind fun _ => yields_bind fun _ =>
      yields_bind fun _ => yields_bind fun _ => yields_bind fun _ =>
        yields_bind fun _ => yields_bind fun _ => yields_bind fun _ =>
          yields_ok (List.cons_ne_nil _ _)
  exact hSome [] hNil rfl

theorem Zpl.barcodeField?_eq_none_iff
    [Machine]
    {q : BarcodeProperties} :
    Zpl.barcodeField? scale place (.record q) = .ok none ↔
      Symbology.ofValue? q.symbology = none := by
  unfold Zpl.barcodeField?
  simp only [Stored.get, Outcome.ok_bind]
  cases Symbology.ofValue? q.symbology with
  | none => simp
  | some symbology => simp [Outcome.bind_eq_ok_iff]

theorem Epl.barcodeRecord?_eq_none_iff
    [Machine]
    {q : BarcodeProperties} :
    Epl.barcodeRecord? scale place (.record q) = .ok none ↔
      Symbology.ofValue? q.symbology = none := by
  unfold Epl.barcodeRecord?
  simp only [Stored.get, Outcome.ok_bind]
  cases Symbology.ofValue? q.symbology with
  | none => simp
  | some symbology => simp [Outcome.bind_eq_ok_iff]

theorem Dpl.barcodeRecord?_eq_none_iff
    [Machine]
    {q : BarcodeProperties} :
    Dpl.barcodeRecord? scale place (.record q) = .ok none ↔
      Symbology.ofValue? q.symbology = none := by
  unfold Dpl.barcodeRecord?
  simp only [Stored.get, Outcome.ok_bind]
  cases Symbology.ofValue? q.symbology with
  | none => simp
  | some symbology => simp [Outcome.bind_eq_ok_iff]

theorem Zpl.imageField?_eq_none_iff
    {q : ImageProperties} :
    Zpl.imageField? scale place (.record q) = .ok none ↔
      q.src.truthy = false := by
  unfold Zpl.imageField?
  simp only [Stored.get, Outcome.ok_bind]
  cases q.src.truthy with
  | false => simp
  | true => simp [Outcome.bind_eq_ok_iff]

theorem Epl.imageRecord?_eq_none_iff
    {q : ImageProperties} :
    Epl.imageRecord? scale place (.record q) = .ok none ↔
      q.src.truthy = false := by
  unfold Epl.imageRecord?
  simp only [Stored.get, Outcome.ok_bind]
  cases q.src.truthy with
  | false => simp
  | true => simp [Outcome.bind_eq_ok_iff]

end Blocks

/- The fields of an element are none for a blank content. -/
theorem Zpl.fields_eq_nil_iff
    [Machine]
    {o : ZplOptions}
    {e : Element} :
    Zpl.fields o e = .ok [] ↔ e.content.IsBlank := by
  unfold Zpl.fields
  cases e.content with
  | text p => exact iff_of_false (singleton_ne_nil _) id
  | line p => exact iff_of_false (singleton_ne_nil _) id
  | box p => exact iff_of_false (Zpl.boxFields_ne_nil p) id
  | circle p => exact iff_of_false (singleton_ne_nil _) id
  | barcode stored =>
      cases stored with
      | record q =>
          exact toList_eq_nil_iff.trans
            Zpl.barcodeField?_eq_none_iff
      | foreign v => exact iff_of_false nofun id
  | image stored =>
      cases stored with
      | record q =>
          exact toList_eq_nil_iff.trans
            Zpl.imageField?_eq_none_iff
      | foreign v => exact iff_of_false nofun id
  | unknown elementType properties =>
      exact iff_of_true rfl trivial
  | bare => exact iff_of_true rfl trivial

/- There are no records for blank contents and for circles. -/
theorem Epl.records_eq_nil_iff
    [Machine]
    {o : EplOptions}
    {e : Element} :
    Epl.records o e = .ok [] ↔
      e.content.IsBlank ∨
        Printer.lacks ⟨.epl o⟩ e.content = true := by
  have hNeither : ¬ (False ∨ false = true) := by simp
  unfold Epl.records
  cases e.content with
  | text p =>
      exact iff_of_false (singleton_ne_nil _) hNeither
  | line p =>
      exact iff_of_false (singleton_ne_nil _) hNeither
  | box p =>
      exact iff_of_false (singleton_ne_nil _) hNeither
  | circle p => exact iff_of_true rfl (Or.inr rfl)
  | barcode stored =>
      cases stored with
      | record q =>
          refine Iff.trans ?_
            (or_iff_left Bool.false_ne_true).symm
          exact toList_eq_nil_iff.trans
            Epl.barcodeRecord?_eq_none_iff
      | foreign v => exact iff_of_false nofun hNeither
  | image stored =>
      cases stored with
      | record q =>
          refine Iff.trans ?_
            (or_iff_left Bool.false_ne_true).symm
          exact toList_eq_nil_iff.trans
            Epl.imageRecord?_eq_none_iff
      | foreign v => exact iff_of_false nofun hNeither
  | unknown elementType properties =>
      exact iff_of_true rfl (Or.inl trivial)
  | bare => exact iff_of_true rfl (Or.inl trivial)

/- There are no records for all but texts and known barcodes. -/
theorem Dpl.records_eq_nil_iff
    [Machine]
    {o : DplOptions}
    {e : Element} :
    Dpl.records o e = .ok [] ↔
      e.content.IsBlank ∨
        Printer.lacks ⟨.dpl o⟩ e.content = true := by
  have hNeither : ¬ (False ∨ false = true) := by simp
  unfold Dpl.records
  cases e.content with
  | text p =>
      exact iff_of_false (singleton_ne_nil _) hNeither
  | barcode stored =>
      cases stored with
      | record q =>
          refine Iff.trans ?_
            (or_iff_left Bool.false_ne_true).symm
          exact toList_eq_nil_iff.trans
            Dpl.barcodeRecord?_eq_none_iff
      | foreign v => exact iff_of_false nofun hNeither
  | unknown elementType properties =>
      exact iff_of_true rfl (Or.inl trivial)
  | bare => exact iff_of_true rfl (Or.inl trivial)
  | _ => exact iff_of_true rfl (Or.inr rfl)

namespace Printer

variable {p : Printer}

/- The lines of a list are none when the list has nothing. -/
theorem map_eq_nil_iff
    {α β : Type}
    {r : Except Fault (List α)}
    {f : α → β} :
    (r >>= fun row => .ok (row.map f)) = .ok [] ↔
      r = .ok [] := by
  cases r with
  | error fault => simp
  | ok row => simp

/- A block is empty for what the language does not print. -/
theorem block_eq_nil_iff
    [Machine]
    {e : Element} :
    p.block e = .ok [] ↔
      e.content.IsBlank ∨ p.lacks e.content = true := by
  rcases p with ⟨options⟩
  cases options with
  | zpl o =>
      rw [or_iff_left (by simp [lacks])]
      exact map_eq_nil_iff.trans Zpl.fields_eq_nil_iff
  | epl o =>
      exact map_eq_nil_iff.trans Epl.records_eq_nil_iff
  | dpl o =>
      exact map_eq_nil_iff.trans Dpl.records_eq_nil_iff

/-
  Whether an element has nothing to print: its content is blank,
  the language lacks its shape, or its encoder fails.
-/
def IsMute
    [Machine]
    (p : Printer)
    (e : Element) :
    Prop :=
  e.content.IsBlank ∨ p.lacks e.content = true ∨
    ∃ f, p.block e = .error f

/- An element has no lines when it has nothing to print. -/
theorem eq_nil_iff_of_encode
    [Machine]
    {e : Element}
    {lines : List Text}
    (hLines : (p.encode e).result = .ok lines) :
    lines = [] ↔ p.IsMute e := by
  by_cases hKnown : hasKnownType e = true
  · rw [encode, if_pos hKnown] at hLines
    rw [IsMute, ← or_assoc, ← block_eq_nil_iff]
    cases hBlock : p.block e with
    | ok block =>
        rw [hBlock] at hLines
        obtain rfl : block = lines := Except.ok.inj hLines
        simp
    | error f =>
        rw [hBlock] at hLines
        refine iff_of_true ?_ (.inr ⟨f, rfl⟩)
        rcases result_skip e f with hNone | hDeep
        · exact (Except.ok.inj (hNone.symm.trans hLines)).symm
        · cases hDeep.symm.trans hLines
  · rw [result_encode_of_unknown p hKnown] at hLines
    obtain rfl : [] = lines := Except.ok.inj hLines
    refine iff_of_true rfl (Or.inl ?_)
    unfold hasKnownType at hKnown
    cases hContent : e.content with
    | unknown elementType properties => trivial
    | bare => trivial
    | _ =>
        rw [hContent] at hKnown
        exact absurd rfl hKnown

------------------------------------------------------------
-- Entries without Elements or Lines
------------------------------------------------------------

variable {canvas : CanvasSource}
variable {c : Canvas}
variable {entry : Entry}
variable {xs ys : List Entry}
variable {code : Text}

/-
  Whether an entry at an index has no element, or one without
  lines.
-/
def IsSilent
    [Machine]
    (p : Printer)
    (entry : Entry)
    (index : Nat) :
    Prop :=
  ∀ e lines, (entry.coerce? index).result = .ok (some e) →
    (p.encode e).result = .ok lines → lines = []

/- A silent entry has no lines, whatever its index. -/
theorem keyedLines?_of_isSilent
    [Machine]
    {index : Nat}
    {q : Double × List Text}
    (hSilent : p.IsSilent entry index)
    (hCoerces : entry.Coerces)
    (hKeyed : p.keyedLines? entry = some q) :
    q.2 = [] := by
  rcases Option.map_eq_some_iff.mp hKeyed with ⟨e, he, rfl⟩
  rcases hCoerces.exists_coerce? index with ⟨e?, hHere⟩
  have hSame := (Entry.coerce?_eq_ok hHere).2
  rw [he] at hSame
  rcases Option.map_eq_some_iff.mp hSame with
    ⟨e', rfl, hUnnamed⟩
  have hNone : p.lines e' = [] := by
    rcases p.result_encode e' with hLines | hDeep
    · exact hSilent e' _ hHere hLines
    · rw [lines, hDeep]
  rw [← p.lines_unnamed e, ← hUnnamed, p.lines_unnamed, hNone]

/- Whether there are lines under a depth. -/
def hasLines
    (q : Double × List Text) :
    Bool :=
  !q.2.isEmpty

/- The blocks around a silent entry are those without it. -/
theorem flatten_blocks_of_isSilent
    [Machine]
    {index : Nat}
    (hSilent : p.IsSilent entry index)
    (hCoerces : entry.Coerces) :
    (p.blocks (xs ++ [entry] ++ ys)).flatten =
      (p.blocks (xs ++ ys)).flatten := by
  have hPrinted :
      ∀ entries, (p.blocks entries).flatten =
        ((orderedByDepth
          ((entries.filterMap p.keyedLines?).filter
            hasLines)).map Prod.snd).flatten := by
    intro entries
    rw [orderedByDepth_filter
      (p.haveDepths_keyedLines? entries) hasLines, blocks,
      ← List.flatten_filter_not_isEmpty, List.filter_map]
    rfl
  have hEntry :
      ([entry].filterMap p.keyedLines?).filter hasLines =
        [] := by
    cases hKeyed : p.keyedLines? entry with
    | none => simp [hKeyed]
    | some q =>
        have hNone :=
          keyedLines?_of_isSilent hSilent hCoerces hKeyed
        simp [hKeyed, hasLines, hNone]
  rw [hPrinted, hPrinted (xs ++ ys), List.filterMap_append,
    List.filterMap_append, List.filterMap_append,
    List.filter_append, List.filter_append, hEntry,
    List.append_nil, List.filter_append]

/-
  A stream is the same without a silent entry, although the
  later entries move up by one.  The elements without lines are
  the ones that have nothing to print.
-/
theorem emit_without_silent
    [Machine]
    (hSilent : p.IsSilent entry xs.length)
    (hCode :
      (p.emit (.entries (xs ++ [entry] ++ ys))
        canvas).result = .ok code) :
    (p.emit (.entries (xs ++ ys)) canvas).result =
        .ok code ∧
      ∀ e lines, (p.encode e).result = .ok lines →
        (lines = [] ↔ p.IsMute e) := by
  refine ⟨?_, fun e lines hLines => eq_nil_iff_of_encode hLines⟩
  rcases emit_eq_ok_iff.mp hCode with
    ⟨c, opening, hCanvas, hOpening, hPlaced, hClosing, hLines⟩
  have hMember : entry ∈ xs ++ [entry] ++ ys := by simp
  apply emit_eq_ok_iff.mpr
  refine ⟨c, opening, hCanvas, hOpening, ?_, hClosing, ?_⟩
  · intro other hOther
    apply hPlaced other
    rcases List.mem_append.mp hOther with hBefore | hAfter
    · exact List.mem_append_left ys
        (List.mem_append_left [entry] hBefore)
    · exact List.mem_append_right (xs ++ [entry]) hAfter
  · rw [hLines, flatten_blocks_of_isSilent hSilent
      (hPlaced entry hMember).coerces]

/- A barcode of no known symbology between two other elements. -/
theorem emit_without_unknown_symbology :
    let p : Printer :=
      ⟨.zpl {
        scale := ⟨.int 203, 203, .dots, rfl⟩
        printSpeed := .int 4
        density := .int 8
        tearOff := .int 0 }⟩
    let line : Entry :=
      .object [("type", .text "line"), ("width", .int 7)]
    let barcode : Entry :=
      .object [("type", .text "barcode"), ("zIndex", .int 3),
        ("properties", .object [("symbology", .text "?")])]
    let text : Entry :=
      .object [("type", .text "text"), ("y", .int 5),
        ("properties", .object [("text", .text "ok")])]
    let code : Text :=
      joined ["^XA", "^PW400", "^LL300", "^PR4", "^MD8",
        "^FO0,0^GB7,2,2,B^FS",
        "^FO0,5^AAN,14,12^FDok^FS", "^XZ"]
    p.IsSilent barcode 1 ∧
      (p.emit (.entries ([line] ++ [barcode] ++ [text]))
        (.data .null)).result = .ok code ∧
      (p.emit (.entries ([line] ++ [text]))
        (.data .null)).result = .ok code := by
  intro p line barcode text code
  have hSilent : p.IsSilent barcode 1 := by
    intro e lines hCoerced hLines
    obtain rfl := Option.some.inj (Except.ok.inj hCoerced)
    exact (Except.ok.inj hLines).symm
  have hCode :
      (p.emit (.entries ([line] ++ [barcode] ++ [text]))
        (.data .null)).result = .ok code := by
    simp only [p, line, barcode, text, code]
    decide +kernel
  exact ⟨hSilent, hCode,
    (emit_without_silent hSilent hCode).1⟩

end Printer

end LabelPress

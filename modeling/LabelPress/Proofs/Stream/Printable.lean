import LabelPress.Machine.Usual
import LabelPress.Proofs.Label.Document
import LabelPress.Proofs.Label.Loading
import LabelPress.Proofs.Stream.WholeBlocks

/-
  Elements that every language prints.

  Texts and barcodes are turned into records from their positions,
  their rotation, the size of a font, and values that are shown;
  all else that is stored in them may be anything.  Reading a
  document makes the positions and the rotation numbers, so that
  no text is lost unless a value is too deep in itself to be shown,
  and no barcode but for that and an unknown symbology.

  Main declarations:
    * `Placement.IsPrintable`, `Placement.isPrintable_ofFields`
    * `Content.shownBy`, `Content.IsTooDeep`
    * `Printer.firstFault_conversions`, `Printer.encode_cases`
    * `Document.load_prints`
-/

namespace LabelPress

------------------------------------------------------------
-- Placements
------------------------------------------------------------

/- Whether the numbers that place an element can be printed. -/
structure Placement.IsPrintable
    (place : Placement) :
    Prop where
  xFits : place.x.FitsDouble
  yFits : place.y.FitsDouble
  heightFits : place.height.FitsDouble
  rotationFits : place.rotation.FitsDouble
  rotationIsKey : ∀ levels, place.rotation.checkKey levels = .ok ()

theorem fitsDouble_nearestQuarter
    (degrees : Double) :
    (Value.int (nearestQuarter degrees)).FitsDouble := by
  have hRange :
      0 ≤ nearestQuarter degrees ∧
        nearestQuarter degrees ≤ 270 := by
    unfold nearestQuarter
    split_ifs with hFinite
    · omega
    · decide
  have hBound : 270 < Double.integerBound := by decide
  intro n hSame
  obtain rfl : nearestQuarter degrees = n :=
    Value.int.inj hSame
  omega

/- What places an element is read as numbers in range. -/
theorem Placement.isPrintable_ofFields
    {fields : Fields}
    {position : Position}
    {p : Placement}
    (hRead : Placement.ofFields fields position = .ok p) :
    p.IsPrintable := by
  rcases Placement.exists_numbers_of_ofFields hRead with
    ⟨x, y, width, height, degrees, depth, _, rfl⟩
  exact
    { xFits := Value.fitsDouble_double x
      yFits := Value.fitsDouble_double y
      heightFits := Value.fitsDouble_double _
      rotationFits := fitsDouble_nearestQuarter degrees
      rotationIsKey := fun _ => rfl }

------------------------------------------------------------
-- Values That Are Shown
------------------------------------------------------------

/- The site where a language shows the data of an element. -/
def Protocol.dataSite :
    Protocol → Site
  | zpl => .zplData
  | epl => .eplData
  | dpl => .dplData

/-
  The values of a text or a barcode that a language shows.  In ZPL
  the alignment of a text is looked up by how it is shown.
-/
def Content.shownBy
    (content : Content)
    (protocol : Protocol) :
    List (Site × Value) :=
  match content with
  | .text (.record q) =>
      (if protocol = .zpl then [(.alignment, q.alignment)] else []) ++
        [(protocol.dataSite, q.text)]
  | .barcode (.record q) =>
      if Symbology.ofValue? q.symbology = none then []
      else [(protocol.dataSite, q.data)]
  | _ => []

/- Whether a value that a language shows is too deep in itself. -/
def Content.IsTooDeep
    [Machine]
    (content : Content)
    (protocol : Protocol) :
    Prop :=
  ∃ shown ∈ content.shownBy protocol,
    shown.2.checkShown shown.1 = .error .nestedTooDeep

/-
  Whether the integers are in range in what is read of a text or a
  barcode: the size of a font, and the values that are shown.
-/
def Content.IntegersFit :
    Content → Prop
  | .text (.record q) =>
      q.fontSize.FitsDouble ∧ q.alignment.integersFit = true ∧
        q.text.integersFit = true
  | .barcode (.record q) => q.data.integersFit = true
  | _ => True

theorem Content.integersFit_of_mem
    {content : Content}
    {protocol : Protocol}
    (hFits : content.IntegersFit) :
    ∀ shown ∈ content.shownBy protocol,
      shown.2.integersFit = true := by
  unfold shownBy
  split
  · rw [List.forall_mem_append, List.forall_mem_singleton]
    refine ⟨?_, hFits.2.2⟩
    split_ifs with hZpl
    · exact List.forall_mem_singleton.mpr hFits.2.1
    · exact List.forall_mem_nil _
  · split_ifs with hUnknown
    · exact List.forall_mem_nil _
    · exact List.forall_mem_singleton.mpr hFits
  · exact List.forall_mem_nil _

section Shown

variable [Machine]
variable {v : Value}
variable {shown : List (Site × Value)}

/- What cannot fail is passed over. -/
theorem Conversion.firstFault_number
    (hFits : v.FitsDouble)
    (cs : List Conversion) :
    firstFault (.number v :: cs) = firstFault cs := by
  simp [firstFault, fault?, hFits]

theorem Conversion.firstFault_key
    (hKey : ∀ levels, v.checkKey levels = .ok ())
    (cs : List Conversion) :
    firstFault (.key v :: cs) = firstFault cs := by
  simp [firstFault, fault?, Value.checkLookedUp, hKey]

/- Values in range can be shown if none is too deep in itself. -/
theorem Conversion.firstFault_shown
    (hFits : ∀ s ∈ shown, s.2.integersFit = true) :
    ((∃ s ∈ shown, s.2.checkShown s.1 = .error .nestedTooDeep) ∧
      firstFault (shown.map fun s => .shown s.1 s.2) =
        some .nestedTooDeep) ∨
    ((¬ ∃ s ∈ shown, s.2.checkShown s.1 = .error .nestedTooDeep) ∧
      firstFault (shown.map fun s => .shown s.1 s.2) = none) := by
  have hFault :
      ∀ s ∈ shown, ∀ f,
        fault? (.shown s.1 s.2) = some f →
          f = .nestedTooDeep ∧
            s.2.checkShown s.1 = .error .nestedTooDeep := by
    intro s hMember f hSome
    unfold fault? at hSome
    dsimp only at hSome
    cases hShown : s.2.checkShown s.1 with
    | ok _ =>
        rw [hShown] at hSome
        cases hSome
    | error g =>
        rw [hShown] at hSome
        obtain rfl := Option.some.inj hSome
        obtain rfl : g = .nestedTooDeep :=
          Value.checkInspected_of_integersFit (hFits s hMember)
            _ g hShown
        exact ⟨rfl, rfl⟩
  cases hFirst :
      firstFault (shown.map fun s => .shown s.1 s.2) with
  | some f =>
      rcases List.exists_of_findSome?_eq_some hFirst with
        ⟨c, hMember, hSome⟩
      rcases List.mem_map.mp hMember with ⟨s, hShown, rfl⟩
      rcases hFault s hShown f hSome with ⟨rfl, hDeep⟩
      exact .inl ⟨⟨s, hShown, hDeep⟩, rfl⟩
  | none =>
      refine .inr ⟨?_, rfl⟩
      rintro ⟨s, hShown, hDeep⟩
      have hNone :=
        List.findSome?_eq_none_iff.mp hFirst (.shown s.1 s.2)
          (List.mem_map_of_mem hShown)
      rw [fault?, hDeep] at hNone
      cases hNone

end Shown

------------------------------------------------------------
-- Blocks
------------------------------------------------------------

/- Whether a content is a text or a barcode with a record. -/
inductive Content.IsPrinted :
    Content → Prop where
  | text
      (q : TextProperties) :
      IsPrinted (.text (.record q))
  | barcode
      (q : BarcodeProperties) :
      IsPrinted (.barcode (.record q))

namespace Printer

variable {e : Element}

/- Of what is converted only what is shown can fail. -/
theorem firstFault_conversions
    [Machine]
    (p : Printer)
    (hPrinted : e.content.IsPrinted)
    (hPlace : e.toPlacement.IsPrintable)
    (hFits : e.content.IntegersFit) :
    Conversion.firstFault (p.conversions e) =
      Conversion.firstFault
        ((e.content.shownBy p.protocol).map
          fun s => .shown s.1 s.2) := by
  rcases e with ⟨place, content⟩
  rcases p with ⟨options⟩
  have hX := Conversion.firstFault_number hPlace.xFits
  have hY := Conversion.firstFault_number hPlace.yFits
  have hHeight := Conversion.firstFault_number hPlace.heightFits
  have hTurns := Conversion.firstFault_number hPlace.rotationFits
  have hKey := Conversion.firstFault_key hPlace.rotationIsKey
  cases hPrinted with
  | text q =>
      have hSize := Conversion.firstFault_number hFits.1
      cases options with
      | _ =>
        simp only [conversions, Zpl.conversions, Epl.conversions,
          Dpl.conversions, conversionsOf, Stored.get,
          List.cons_append, List.nil_append, hSize, hX, hY, hTurns,
          hKey]
        rfl
  | barcode q =>
      cases options with
      | _ =>
        simp only [conversions, Zpl.conversions, Epl.conversions,
          Dpl.conversions, conversionsOf, Stored.get,
          Content.shownBy]
        split_ifs with hUnknown
        · rfl
        · simp only [hX, hY, hHeight, hTurns, hKey]
          rfl

/- A text or a barcode is printed unless a value is too deep. -/
theorem encode_cases
    [Machine]
    (p : Printer)
    (hPrinted : e.content.IsPrinted)
    (hPlace : e.toPlacement.IsPrintable)
    (hFits : e.content.IntegersFit) :
    (e.content.IsTooDeep p.protocol ∧
      p.encode e = .fail .nestedTooDeep) ∨
    (¬ e.content.IsTooDeep p.protocol ∧
      ∃ lines, p.encode e = .ok lines ∧
        lines.length = p.lineCount e) := by
  have hBlock := p.follows_block e
  have hKnown : hasKnownType e = true := by
    rcases e with ⟨place, content⟩
    cases hPrinted with
    | _ => rfl
  rw [encode, if_pos hKnown]
  unfold Follows at hBlock
  rw [p.firstFault_conversions hPrinted hPlace hFits] at hBlock
  rcases Conversion.firstFault_shown
      (Content.integersFit_of_mem hFits) with
    ⟨hDeep, hFirst⟩ | ⟨hShallow, hFirst⟩
  · rw [hFirst] at hBlock
    rw [hBlock]
    exact .inl ⟨hDeep, rfl⟩
  · rw [hFirst] at hBlock
    rcases hBlock with ⟨lines, hLines, hCount⟩
    rw [hLines]
    exact .inr ⟨hShallow, lines, rfl, hCount⟩

theorem lineCount_of_printed
    {p : Printer}
    (hPrinted : e.content.IsPrinted) :
    p.lineCount e = if e.content.IsBlank then 0 else 1 := by
  rcases e with ⟨place, content⟩
  rcases p with ⟨options⟩
  cases hPrinted with
  | _ =>
      cases options with
      | _ => exact lineCount_of_plain rfl rfl

/- What has one line has it unless a value is too deep. -/
theorem encode_one
    [Machine]
    {p : Printer}
    (hPrinted : e.content.IsPrinted)
    (hPlace : e.toPlacement.IsPrintable)
    (hFits : e.content.IntegersFit)
    (hOne : p.lineCount e = 1) :
    (e.content.IsTooDeep p.protocol →
      p.encode e = .fail .nestedTooDeep) ∧
    (¬ e.content.IsTooDeep p.protocol →
      ∃ line, p.encode e = .ok [line]) := by
  rcases p.encode_cases hPrinted hPlace hFits with
    ⟨hDeep, hFault⟩ | ⟨hShallow, lines, hEncoded, hCount⟩
  · exact ⟨fun _ => hFault, fun hNot => absurd hDeep hNot⟩
  · rw [hOne] at hCount
    rcases List.length_eq_one_iff.mp hCount with ⟨line, rfl⟩
    exact ⟨fun hDeep => absurd hDeep hShallow,
      fun _ => ⟨line, hEncoded⟩⟩

end Printer

------------------------------------------------------------
-- Documents
------------------------------------------------------------

/- Texts and barcodes that are read have records of their own. -/
theorem Content.isPrinted_of_ofFields
    {id elementType : Text}
    {properties : Fields}
    {content : Content}
    (hRead :
      (Content.ofFields id elementType properties).result =
        .ok content) :
    (∀ stored, content = .text stored → content.IsPrinted) ∧
      ∀ stored, content = .barcode stored → content.IsPrinted := by
  cases isOfType_of_ofFields hRead with
  | text q => exact ⟨fun _ _ => .text q, nofun⟩
  | barcode q => exact ⟨nofun, fun _ _ => .barcode q⟩
  | _ => exact ⟨nofun, nofun⟩

section Loaded

variable [Machine]
variable {files : Files}
variable {payload : Value}
variable {document : Document}
variable {e : Element}

/- What is read from a document is at a place that can be printed. -/
theorem Document.exists_ofFields
    (hLoaded : (load files payload).result = .ok document)
    (hMember : e ∈ document.elements) :
    e.toPlacement.IsPrintable ∧
      (∀ stored, e.content = .text stored → e.content.IsPrinted) ∧
      ∀ stored, e.content = .barcode stored →
        e.content.IsPrinted := by
  rcases exists_fields_of_mem hLoaded hMember with
    ⟨fields, position, hElement⟩
  rcases Element.ofFields_eq_ok_iff.mp hElement with
    ⟨_, place, content, hPlacement, hContent, rfl⟩
  exact ⟨Placement.isPrintable_ofFields hPlacement,
    Content.isPrinted_of_ofFields hContent⟩

/-
  Each text of a document that was loaded comes to one line in
  each language, and each barcode to one line or, if nothing is
  known of its symbology, to none.  No fault is noticed.  This is
  so for all integers in range, unless a value that is shown is too
  deep in itself, which ends the encoding.
-/
theorem Document.load_prints
    {options : OptionSource}
    (hLoaded : (load files payload).result = .ok document)
    (hFits : ∀ e ∈ document.elements, e.content.IntegersFit)
    (hOptions : options.IsUsable)
    (protocol : Protocol)
    (hShallow : ¬ options.IsTooDeep protocol) :
    ∃ p,
      (Printer.ofSource (.text protocol.name) options).result =
          .ok p ∧
        p.protocol = protocol ∧
        ∀ e ∈ document.elements,
          (∀ stored, e.content = .text stored →
            (e.content.IsTooDeep protocol →
              p.encode e = .fail .nestedTooDeep) ∧
            (¬ e.content.IsTooDeep protocol →
              ∃ line, p.encode e = .ok [line])) ∧
          ∀ stored, e.content = .barcode stored →
            ∃ q, stored = .record q ∧
              (Symbology.ofValue? q.symbology = none →
                p.encode e = .ok []) ∧
              ((Symbology.ofValue? q.symbology).isSome = true →
                (e.content.IsTooDeep protocol →
                  p.encode e = .fail .nestedTooDeep) ∧
                (¬ e.content.IsTooDeep protocol →
                  ∃ line, p.encode e = .ok [line])) := by
  rcases Printer.exists_ofSource hOptions protocol with
    ⟨hDeep, _⟩ | ⟨_, p, hPrinter, rfl, _⟩
  · exact absurd hDeep hShallow
  refine ⟨p, hPrinter, rfl, fun e hMember => ?_⟩
  rcases Document.exists_ofFields hLoaded hMember with
    ⟨hPlace, hTexts, hBarcodes⟩
  have hContentFits := hFits e hMember
  constructor
  · intro stored hStored
    have hPrinted := hTexts stored hStored
    have hOne : p.lineCount e = 1 := by
      rw [Printer.lineCount_of_printed hPrinted, hStored]
      exact if_neg id
    exact Printer.encode_one hPrinted hPlace hContentFits hOne
  · intro stored hStored
    have hPrinted := hBarcodes stored hStored
    rcases hStored ▸ hPrinted with _ | q
    refine ⟨q, rfl, fun hUnknown => ?_, fun hKnown => ?_⟩
    · have hNone : p.lineCount e = 0 := by
        rw [Printer.lineCount_of_printed hPrinted, hStored]
        exact if_pos hUnknown
      rcases p.encode_cases hPrinted hPlace hContentFits with
        ⟨⟨shown, hShown, _⟩, _⟩ | ⟨_, lines, hEncoded, hCount⟩
      · rw [hStored, Content.shownBy, if_pos hUnknown] at hShown
        cases hShown
      · rw [hNone] at hCount
        obtain rfl := List.length_eq_zero_iff.mp hCount
        exact hEncoded
    · have hOne : p.lineCount e = 1 := by
        rw [Printer.lineCount_of_printed hPrinted, hStored]
        exact if_neg fun hBlank : Symbology.ofValue? _ = none =>
          Option.isSome_iff_ne_none.mp hKnown hBlank
      exact Printer.encode_one hPrinted hPlace hContentFits hOne

end Loaded

/-
  A text with no font size that is a number and a barcode of no
  symbology, at places that are no numbers.
-/
def oddDocument :
    Value :=
  .object
    [("elements", .list
      [.object
        [("type", .text "text"), ("x", .null),
          ("properties", .object
            [("text", .list [.int 1]), ("fontSize", .list []),
              ("alignment", .bool true)])],
      .object
        [("type", .text "barcode"), ("rotation", .null),
          ("properties", .object [("symbology", .int 5)])]])]

/- The text of the odd document is printed in each language. -/
theorem Document.load_prints_odd :
    ∃ document text barcode,
      (load [] oddDocument).result = .ok document ∧
        document.elements = [text, barcode] ∧
        ∀ protocol : Protocol, ∃ p line,
          (Printer.ofSource (.text protocol.name)
              (.data .null)).result = .ok p ∧
            p.encode text = .ok [line] ∧
            p.encode barcode = .ok [] := by
  have hLoaded :
      (load [] oddDocument).result = .ok _ := rfl
  refine ⟨_, _, _, hLoaded, rfl, fun protocol => ?_⟩
  have hOptions : OptionSource.IsUsable (.data .null) := trivial
  have hShallow :
      ¬ OptionSource.IsTooDeep (.data .null) protocol := by
    rintro ⟨_, ⟨⟩, _⟩
  rcases Document.load_prints hLoaded
      (by
        intro e hMember
        rcases List.mem_pair.mp hMember with rfl | rfl
        · exact ⟨by decide, rfl, rfl⟩
        · rfl)
      hOptions protocol hShallow with
    ⟨p, hPrinter, _, hPrinted⟩
  rcases (hPrinted _ List.mem_cons_self).1 _ rfl with
    ⟨_, hLine⟩
  rcases (hPrinted _
      (List.mem_cons_of_mem _ List.mem_cons_self)).2 _ rfl with
    ⟨q, hRecord, hNone, _⟩
  have hFlat :
      ¬ (Content.text (.record
          { text := .list [.int 1], fontSize := .list [],
            alignment := .bool true })).IsTooDeep protocol := by
    rintro ⟨shown, hShown, hDeep⟩
    cases protocol with
    | zpl =>
        rcases List.mem_pair.mp hShown with rfl | rfl
        · cases hDeep
        · cases hDeep
    | _ =>
        obtain rfl := List.mem_singleton.mp hShown
        cases hDeep
  rcases hLine hFlat with ⟨line, hText⟩
  refine ⟨p, line, hPrinter, hText, hNone ?_⟩
  obtain rfl := Stored.record.inj hRecord
  rfl

/- A document of one text. -/
def loneTextDocument
    (v : Value) :
    Value :=
  .object
    [("elements", .list
      [.object
        [("type", .text "text"),
          ("properties", .object [("text", v)])]])]

/- Of a lone text that is too deep in itself nothing is printed. -/
theorem Document.load_lost
    [Machine]
    {v : Value}
    (hFits : v.integersFit = true)
    (hDeep : v.checkShown .zplData = .error .nestedTooDeep) :
    ∃ document e,
      (load [] (loneTextDocument v)).result = .ok document ∧
        document.elements = [e] ∧
        ∀ o : ZplOptions,
          (Printer.mk (.zpl o)).encode e = .fail .nestedTooDeep := by
  have hLoaded :
      (load [] (loneTextDocument v)).result = .ok _ := rfl
  refine ⟨_, _, hLoaded, rfl, fun o => ?_⟩
  rcases Document.exists_ofFields hLoaded List.mem_cons_self with
    ⟨hPlace, hText, _⟩
  have hContentFits :
      (Content.text (.record { text := v })).IntegersFit :=
    ⟨show (Value.int 12).FitsDouble by decide, rfl, hFits⟩
  rcases (Printer.mk (.zpl o)).encode_cases (hText _ rfl) hPlace
      hContentFits with
    ⟨_, hFault⟩ | ⟨hShallow, _⟩
  · exact hFault
  · refine absurd ⟨(.zplData, v), ?_, hDeep⟩ hShallow
    exact List.mem_cons_of_mem _ List.mem_cons_self

/- So nothing is of a text that is bound over often enough. -/
theorem Document.load_lost_too_deep :
    (Value.boundOver 340).integersFit = true ∧
      ∃ document e,
        (load [] (loneTextDocument (Value.boundOver 340))).result =
            .ok document ∧
          document.elements = [e] ∧
          ∀ o : ZplOptions,
            (Printer.mk (.zpl o)).encode e =
              .fail .nestedTooDeep := by
  have hFits := Value.integersFit_boundOver 340
  have hDeep :
      (Value.boundOver 340).checkShown .zplData =
        .error .nestedTooDeep :=
    Value.checkInspected_boundOver (by decide)
  exact ⟨hFits, load_lost hFits hDeep⟩

end LabelPress

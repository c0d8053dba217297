import LabelPress.Machine.Usual
import LabelPress.Proofs.Printer.Terminator
import LabelPress.Proofs.Stream.EmissionOrder
import LabelPress.Proofs.Stream.Optimized

/-
  The frame of a label.

  A stream is framed when its lines are the opening lines, those
  of the elements and the closing line, and when it ends at the
  closing line only.  The texts that a label prints are written
  as they are, except for quotes in EPL, so that they alone can
  break the frame.

  Main declarations:
    * `Printer.Prints`
    * `emitLabel_framed_iff`
-/

namespace LabelPress

namespace Printer

variable [Machine]
variable {p : Printer}
variable {entries : List Entry}

/- Whether a text is printed by an entry that has lines. -/
def Prints
    (p : Printer)
    (entries : List Entry)
    (t : Text) :
    Prop :=
  ∃ entry ∈ entries, ∃ e,
    entry.coerced? = some e ∧ p.lines e ≠ [] ∧
      t ∈ e.content.printed

/- The lines of an element show what its content prints. -/
theorem showsIn_of_mem_lines
    {e : Element} :
    ∀ line ∈ p.lines e,
      p.protocol.ShowsIn e.content.printed line :=
  forall_mem_lines (p.yields_shown_block e)

/- The lines of entries are lines if what they print is. -/
theorem forall_isLine_blocks_iff :
    (∀ line ∈ (p.blocks entries).flatten, line.IsLine) ↔
      ∀ t, p.Prints entries t → t.IsLine := by
  constructor
  · rintro hLines t ⟨entry, hEntry, e, he, hSome, hPrinted⟩
    rcases List.exists_mem_of_ne_nil _ hSome with
      ⟨line, hMember⟩
    have hLine := hLines line
      (mem_flatten_blocks.mpr ⟨entry, hEntry, e, he, hMember⟩)
    exact (showsIn_of_mem_lines line hMember).isLine.mp hLine t
      hPrinted
  · intro hTexts line hLine
    rcases mem_flatten_blocks.mp hLine with
      ⟨entry, hEntry, e, he, hMember⟩
    apply (showsIn_of_mem_lines line hMember).isLine.mpr
    intro t hPrinted
    exact hTexts t ⟨entry, hEntry, e, he,
      List.ne_nil_of_mem hMember, hPrinted⟩

/- No line of entries ends a label if nothing they print does. -/
theorem forall_not_endsIn_blocks_iff
    {last : Text}
    (hClosing : p.protocol.IsClosing last) :
    (∀ line ∈ (p.blocks entries).flatten,
        ¬ p.protocol.EndsIn last line) ↔
      ∀ t, p.Prints entries t → ¬ p.protocol.Cuts last t := by
  constructor
  · rintro hLines t ⟨entry, hEntry, e, he, hSome, hPrinted⟩ hCuts
    rcases List.exists_mem_of_ne_nil _ hSome with
      ⟨line, hMember⟩
    apply hLines line
      (mem_flatten_blocks.mpr ⟨entry, hEntry, e, he, hMember⟩)
    exact ((showsIn_of_mem_lines line hMember).endsIn last
      hClosing).mpr ⟨t, hPrinted, hCuts⟩
  · intro hTexts line hLine hEnds
    rcases mem_flatten_blocks.mp hLine with
      ⟨entry, hEntry, e, he, hMember⟩
    rcases ((showsIn_of_mem_lines line hMember).endsIn last
      hClosing).mp hEnds with ⟨t, hPrinted, hCuts⟩
    exact hTexts t ⟨entry, hEntry, e, he,
      List.ne_nil_of_mem hMember, hPrinted⟩ hCuts

end Printer

/-
  A stream consists of the opening lines, the blocks of the
  elements and the closing line, each with a newline behind it.
  Cut at its newlines it falls apart into these exactly when no
  text that it prints has a newline, and it ends at the closing
  line only exactly when no text that it prints ends the label.
-/
theorem emitLabel_framed_iff
    [Machine]
    {protocol : Protocol}
    {entries : List Entry}
    {canvas : CanvasSource}
    {options : OptionSource}
    {code : Text}
    (hBuilt : options.built? = none)
    (hCode :
      (emitLabel (.text protocol.name) (.entries entries) canvas
        options).result = .ok code) :
    ∃ p opening blocks last,
      (Printer.ofSource (.text protocol.name) options).result =
          .ok p ∧
        p.Emits entries canvas opening blocks ∧
        p.closing = [last] ∧ protocol.IsClosing last ∧
        code = Text.ended (opening ++ blocks.flatten ++ [last]) ∧
        (Text.partsBetween '\n' code =
            opening ++ blocks.flatten ++ [last, []] ↔
          ∀ t, p.Prints entries t → t.IsLine) ∧
        (protocol.EndsOnce last code ↔
          ∀ t, p.Prints entries t → ¬ protocol.Cuts last t) := by
  rw [emitLabel, Outcome.result_bind] at hCode
  rcases Outcome.bind_eq_ok_iff.mp hCode with
    ⟨p, hPrinter, hEmit⟩
  rcases Printer.yields_ofSource hBuilt protocol p hPrinter with
    ⟨rfl, hWhole⟩
  rcases Printer.emit_eq_ok_iff.mp hEmit with
    ⟨c, opening, hCanvas, hOpening, hPlaced, hShown, hLines⟩
  rcases Printer.exists_closing hWhole with
    ⟨last, hLast, hClosing⟩
  rw [hLast, Printer.joined_eq_ended (by simp)] at hLines
  have hFirst :
      ∀ line ∈ opening, p.protocol.IsOpeningLine line :=
    Printer.yields_opening hWhole c opening hOpening
  refine ⟨p, opening, p.blocks entries, last, hPrinter,
    Printer.emits_blocks hCanvas hOpening hPlaced hShown, hLast,
    hClosing, hLines, ?_, ?_⟩
  · rw [← Printer.forall_isLine_blocks_iff, hLines]
    have hEnd :
        opening ++ (p.blocks entries).flatten ++ [last, []] =
          opening ++ (p.blocks entries).flatten ++ [last] ++
            [[]] := by
      rw [List.append_assoc _ [last]]
      rfl
    rw [hEnd, Text.partsBetween_ended_eq_iff,
      List.forall_mem_append, List.forall_mem_append,
      List.forall_mem_singleton]
    have hOpened : ∀ line ∈ opening, line.IsLine :=
      fun line hMember => (hFirst line hMember).keeps.1
    rw [and_iff_left hClosing.keeps.1]
    exact and_iff_right hOpened
  · rw [← Printer.forall_not_endsIn_blocks_iff hClosing, hLines,
      Protocol.endsOnce_ended_iff hClosing,
      List.forall_mem_append]
    have hQuiet :
        ∀ line ∈ opening, ¬ p.protocol.EndsIn last line := by
      intro line hMember
      have hOpens := hFirst line hMember
      exact hOpens.isQuiet.not_endsIn hOpens.keeps.1 hClosing
    exact and_iff_right hQuiet

/- The object of a text element. -/
def textEntry
    (t : Text) :
    Entry :=
  .object
    [("type", .text "text"),
      ("properties", .object [("text", .text t)])]

/- A text that reads like a terminator stays within its line. -/
theorem emitLabel_framed_iff_quoted :
    ∃ p opening blocks last code,
      (Printer.ofSource (.text Protocol.epl.name)
          (.data .null)).result = .ok p ∧
        (emitLabel (.text Protocol.epl.name)
          (.entries [textEntry "P1"]) (.data .null)
          (.data .null)).result = .ok code ∧
        p.Emits [textEntry "P1"] (.data .null) opening blocks ∧
        p.closing = [last] ∧
        Text.partsBetween '\n' code =
          opening ++ blocks.flatten ++ [last, []] ∧
        Protocol.epl.EndsOnce last code := by
  have hCode :
      (emitLabel (.text Protocol.epl.name)
          (.entries [textEntry "P1"]) (.data .null)
          (.data .null)).result =
        .ok (Printer.joined ["N", "S4", "D1", "ZT", "q400",
          "Q300,26", "A0,0,0,3,1,1,N,\"P1\"", "P1"]) := by
    decide +kernel
  rcases emitLabel_framed_iff rfl hCode with
    ⟨p, opening, blocks, last, hPrinter, hEmits, hLast, _, _,
      hParts, hEnds⟩
  have hPrinted :
      ∀ t, p.Prints [textEntry "P1"] t → t = "P1" := by
    rintro t ⟨entry, hEntry, e, he, _, hText⟩
    obtain rfl := List.mem_singleton.mp hEntry
    obtain rfl := Option.some.inj he
    exact List.mem_singleton.mp hText
  refine ⟨p, opening, blocks, last, _, hPrinter, hCode, hEmits,
    hLast, hParts.mpr ?_, hEnds.mpr ?_⟩
  · intro t hText
    rw [hPrinted t hText]
    decide
  · intro t hText
    rw [hPrinted t hText]
    exact List.not_mem_nil

/-
  A newline in a text of a DPL label ends its record, and with an
  `E` behind it the label.  A ZPL label ends within its text.
-/
theorem emitLabel_unframed :
    let p : Printer :=
      ⟨.dpl ⟨⟨.double 203, 203, .dots, rfl⟩, .int 1⟩⟩
    let record : Text := "1911A010000000000000000a\nE"
    let code : Text :=
      Printer.joined
        [[Dpl.startOfText, 'L'], "H300", "W400", "Q1", record,
          "E"]
    let zplCode : Text :=
      Printer.joined ["^XA", "^PW400", "^LL300", "^PR4", "^MD8",
        "^FO0,0^AAN,14,12^FDa^XZ^FS", "^XZ"]
    ((emitLabel (.text Protocol.dpl.name)
          (.entries [textEntry "a\nE"]) (.data .null)
          (.data .null)).result = .ok code ∧
        (Printer.ofSource (.text Protocol.dpl.name)
          (.data .null)).result = .ok p ∧
        p.blocks [textEntry "a\nE"] = [[record]] ∧
        Text.partsBetween '\n' code ≠
          [[Dpl.startOfText, 'L'], "H300", "W400", "Q1", record,
            "E", []] ∧
        ¬ Protocol.dpl.EndsOnce "E" code) ∧
      (emitLabel (.text Protocol.zpl.name)
          (.entries [textEntry "a^XZ"]) (.data .null)
          (.data .null)).result = .ok zplCode ∧
        ¬ Protocol.zpl.EndsOnce "^XZ" zplCode := by
  intro p record code zplCode
  refine ⟨⟨?_, ?_, ?_, ?_, ?_⟩, ?_, ?_⟩
  · simp only [code, record]
    decide +kernel
  · rw [Printer.ofSource_name]
    rfl
  · simp only [p, record]
    decide +kernel
  · simp only [code, record]
    decide +kernel
  · intro hOnce
    have hAfter := hOnce
      [[Dpl.startOfText, 'L'], "H300", "W400", "Q1",
        "1911A010000000000000000a"] ["E", []] (by
          simp only [code, record]
          decide +kernel)
    exact absurd hAfter (by decide)
  · simp only [zplCode]
    decide +kernel
  · intro hOnce
    have hAfter := hOnce
      (Printer.joined
        ["^XA", "^PW400", "^LL300", "^PR4", "^MD8",
          "^FO0,0^AAN,14,12^FDa"]).dropLast "^FS\n^XZ\n" (by
          simp only [zplCode]
          decide +kernel)
    exact absurd hAfter (by decide)

end LabelPress

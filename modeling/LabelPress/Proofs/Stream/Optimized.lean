import LabelPress.Machine.Usual
import LabelPress.Proofs.Printer.KeptLines
import LabelPress.Proofs.Stream.Emission

/-
  Shortening the streams of labels.

  A ZPL stream whose texts have no newlines loses the newlines at
  its joints and nothing else, and the streams of the other
  languages stay as they are.

  Main declarations:
    * `Entry.printed`
    * `Printer.joined_eq_ended`
    * `optimizeCode_emitLabel`
-/

namespace LabelPress

/- The texts that the element of an entry prints. -/
def Entry.printed
    [Machine]
    (entry : Entry) :
    List Text :=
  match entry.coerced? with
  | some e => e.content.printed
  | none => []

namespace Printer

/- Lines joined into a stream have a newline behind each. -/
theorem joined_eq_ended
    {lines : List Text}
    (hSome : lines ≠ []) :
    joined lines = Text.ended lines := by
  induction lines with
  | nil => exact absurd rfl hSome
  | cons line lines ih =>
      cases lines with
      | nil =>
          simp [joined, Text.intercalate, List.intercalate,
            Text.ended, Text.ofString]
      | cons next lines =>
          have hRest := ih (List.cons_ne_nil next lines)
          rw [Text.ended_cons, ← hRest, joined, joined,
            Text.intercalate, Text.intercalate,
            List.intercalate_cons_cons, List.append_assoc,
            List.append_assoc]
          rfl

variable {p : Printer}

theorem keeps_of_mem_blocks
    [Machine]
    {entries : List Entry}
    (hPrinted :
      ∀ entry ∈ entries, ∀ t ∈ entry.printed, t.IsLine) :
    ∀ line ∈ (p.blocks entries).flatten,
      p.protocol.Keeps line := by
  intro line hMember
  rcases mem_flatten_blocks.mp hMember with
    ⟨entry, hEntry, e, he, hLine⟩
  have hContent := hPrinted entry hEntry
  rw [Entry.printed, he] at hContent
  exact forall_mem_lines (yields_block hContent) line hLine

/- All lines of a stream are kept. -/
theorem exists_kept_lines
    [Machine]
    {entries : List Entry}
    {canvas : CanvasSource}
    {code : Text}
    (hWhole : p.options.HasWholeSettings)
    (hPrinted :
      ∀ entry ∈ entries, ∀ t ∈ entry.printed, t.IsLine)
    (hCode :
      (p.emit (.entries entries) canvas).result = .ok code) :
    ∃ lines, code = Text.ended lines ∧
      ∀ line ∈ lines, p.protocol.Keeps line := by
  rcases emit_eq_ok_iff.mp hCode with
    ⟨c, opening, _, hOpening, _, _, rfl⟩
  refine ⟨_, joined_eq_ended ?_, ?_⟩
  · have hClosing : p.closing ≠ [] := by
      rcases p with ⟨options⟩
      cases options with
      | _ => exact List.cons_ne_nil _ _
    exact List.append_ne_nil_of_right_ne_nil _ hClosing
  · intro line hMember
    rcases List.mem_append.mp hMember with hFront | hLast
    · rcases List.mem_append.mp hFront with hFirst | hMiddle
      · exact (yields_opening hWhole c opening hOpening line
          hFirst).keeps
      · exact keeps_of_mem_blocks hPrinted line hMiddle
    · exact keeps_of_mem_closing hWhole line hLast

/- The printer of a language with options from fields. -/
theorem yields_ofSource
    [Machine]
    {options : OptionSource}
    (hBuilt : options.built? = none)
    (protocol : Protocol) :
    Outcome.Yields
      (fun p => p.protocol = protocol ∧
        p.options.HasWholeSettings)
      (ofSource (.text protocol.name) options).result := by
  rw [ofSource_name, Outcome.result_bind]
  exact (PrinterOptions.yields_ofSource hBuilt protocol).bind
    fun o hOptions => Outcome.yields_ok hOptions

end Printer

/-
  Shortening a label that was emitted with options from fields,
  and whose texts have no newlines, leaves out the newlines at
  the joints of a ZPL stream, and nothing of other streams.
-/
theorem optimizeCode_emitLabel
    [Machine]
    {protocol : Protocol}
    {entries : List Entry}
    {canvas : CanvasSource}
    {options : OptionSource}
    {code : Text}
    (hBuilt : options.built? = none)
    (hPrinted :
      ∀ entry ∈ entries, ∀ t ∈ entry.printed, t.IsLine)
    (hCode :
      (emitLabel (.text protocol.name) (.entries entries) canvas
        options).result = .ok code) :
    (protocol = .zpl →
      Optimizer.WithoutJoints [] code
        (optimizeCode code protocol.name)) ∧
      (protocol ≠ .zpl →
        optimizeCode code protocol.name = code) := by
  rw [emitLabel, Outcome.result_bind] at hCode
  rcases Outcome.bind_eq_ok_iff.mp hCode with
    ⟨p, hPrinter, hEmit⟩
  rcases Printer.yields_ofSource hBuilt protocol p hPrinter with
    ⟨rfl, hWhole⟩
  rcases Printer.exists_kept_lines hWhole hPrinted hEmit with
    ⟨lines, rfl, hKeeps⟩
  have hCollapse := Protocol.collapse_of_keeps hKeeps
  have hName :
      (Protocol.normalName p.protocol.name ==
          Protocol.zpl.name) =
        decide (p.protocol = .zpl) := by
    cases p.protocol with
    | _ => decide +kernel
  rw [optimizeCode, Optimizer.shorten, hCollapse, hName]
  constructor
  · intro hZpl
    rw [if_pos (decide_eq_true hZpl)]
    exact Optimizer.withoutJoints_joinFields _
  · intro hOther
    rw [if_neg (by simpa using hOther)]

/- Two texts on one line of their own each come to one line. -/
theorem optimizeCode_emitLabel_texts :
    let first : Entry :=
      .object
        [("type", .text "text"),
          ("properties", .object [("text", .text "a")])]
    let second : Entry :=
      .object
        [("type", .text "text"), ("y", .int 20),
          ("properties", .object [("text", .text "^FS")])]
    let code : Text :=
      Printer.joined ["^XA", "^PW400", "^LL300", "^PR4", "^MD8",
        "^FO0,0^AAN,14,12^FDa^FS",
        "^FO0,20^AAN,14,12^FD^FS^FS", "^XZ"]
    (emitLabel (.text Protocol.zpl.name)
        (.entries [first, second]) (.data .null)
        (.data .null)).result = .ok code ∧
      Optimizer.WithoutJoints [] code
        (optimizeCode code Protocol.zpl.name) := by
  intro first second code
  have hCode :
      (emitLabel (.text Protocol.zpl.name)
        (.entries [first, second]) (.data .null)
        (.data .null)).result = .ok code := by
    simp only [first, second, code]
    decide +kernel
  have hPrinted :
      ∀ entry ∈ [first, second],
        ∀ t ∈ entry.printed, t.IsLine := by
    simp only [first, second]
    decide +kernel
  exact ⟨hCode,
    (optimizeCode_emitLabel rfl hPrinted hCode).1 rfl⟩

end LabelPress

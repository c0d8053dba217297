import LabelPress.Machine.Usual
import LabelPress.Proofs.Printer.FieldCommands
import LabelPress.Proofs.Stream.Framing

/-
  ZPL streams without carets in their texts.

  If no text that is printed has a caret, a stream opens one label
  and closes it at its end, and the fields between do not overlap:
  each line of an element sets one origin and ends one field.  The
  text of a text field stands between its two words and nowhere
  else, and what precedes them tells how it is printed.

  Main declarations:
    * `Zpl.TextLead.Describes`, `Zpl.IsTextLine`
    * `Zpl.isTextLine_of_mem_lines`
    * `Zpl.wordsIn_opening`, `Zpl.wordsIn_of_mem_lines`
    * `Zpl.IsBalanced`, `Zpl.isBalanced_ended`
    * `emitLabel_balanced`
-/

namespace LabelPress

namespace Zpl

open Outcome (Yields yields_ok yields_bind)

------------------------------------------------------------
-- Lines of Texts
------------------------------------------------------------

/- Whether a lead says how an element with a text is printed. -/
structure TextLead.Describes
    [Machine]
    (scale : Scale)
    (e : Element)
    (p : TextProperties)
    (lead : TextLead) :
    Prop where
  x : scale.dots e.x = .ok lead.origin.x
  y : scale.dots e.y = .ok lead.origin.y
  orientation : orientationFor e.rotation = .ok lead.orientation
  size :
    ∃ size, p.fontSize.doubleOrNaN = .ok size ∧
      lead.font = fontFor (definedOrZero size) ∧
      lead.height =
        max 10 (definedOrZero size * heightFactor).halfAway ∧
      lead.width = max 8 (definedOrZero size).halfAway
  high : 10 ≤ lead.height
  wide : 8 ≤ lead.width
  alignment : lead.alignment = alignmentFor p.alignment

/-
  Whether a line is the text of an element between its words, with
  a lead that can be read, and falls apart at the words in no
  other way.
-/
def IsTextLine
    [Machine]
    (scale : Scale)
    (e : Element)
    (p : TextProperties)
    (line : Text) :
    Prop :=
  ∃ lead,
    lead.Describes scale e p ∧
      TextLead.read? lead.written = some lead ∧
      line =
        lead.written ++ "^FD" ++ p.text.fieldText ++ "^FS" ∧
      ∀ before middle after : Text,
        line = before ++ "^FD" ++ middle ++ "^FS" ++ after →
          before = lead.written ∧ middle = p.text.fieldText ∧
            after = []

variable {options : ZplOptions}
variable {e : Element}

theorem yields_described_text
    [Machine]
    {scale : Scale}
    (p : TextProperties) :
    Yields
      (fun f => ∃ lead : TextLead,
        lead.Describes scale e p ∧ lead.font ∈ fonts ∧
          f = lead.field p.text.fieldText)
      (textField scale e.toPlacement (.record p)) := by
  intro f hField
  rcases Outcome.bind_eq_ok_iff.mp hField with ⟨_, hp, hField⟩
  obtain rfl := Except.ok.inj hp
  rcases Outcome.bind_eq_ok_iff.mp hField with
    ⟨size, hSize, hField⟩
  rcases Outcome.bind_eq_ok_iff.mp hField with
    ⟨orientation, hOrientation, hField⟩
  rcases Outcome.bind_eq_ok_iff.mp hField with
    ⟨origin, hOrigin, hField⟩
  rcases Outcome.bind_eq_ok_iff.mp hOrigin with
    ⟨x, hx, hOrigin⟩
  rcases Outcome.bind_eq_ok_iff.mp hOrigin with
    ⟨y, hy, hOrigin⟩
  obtain rfl := Except.ok.inj hOrigin
  rcases Outcome.bind_eq_ok_iff.mp hField with ⟨_, _, hField⟩
  rcases Outcome.bind_eq_ok_iff.mp hField with ⟨_, _, hField⟩
  obtain rfl := Except.ok.inj hField
  refine ⟨⟨⟨x, y⟩, _, orientation, _, _, _⟩, ?_,
    fontFor_mem (definedOrZero size), rfl⟩
  exact {
    x := hx
    y := hy
    orientation := hOrientation
    size := ⟨size, hSize, rfl, rfl, rfl⟩
    high := le_max_left _ _
    wide := le_max_left _ _
    alignment := rfl }

/- The line of a text without carets can be read back. -/
theorem isTextLine_of_mem_lines
    [Machine]
    {p : TextProperties}
    (hContent : e.content = .text (.record p))
    (hFree : IsCaretFree p.text.fieldText) :
    ∀ line ∈ Printer.lines ⟨.zpl options⟩ e,
      IsTextLine options.scale e p line := by
  apply Printer.forall_mem_lines
  have hFields :
      Yields
        (fun fs => ∀ f ∈ fs, ∃ lead : TextLead,
          lead.Describes options.scale e p ∧
            lead.font ∈ fonts ∧ f = lead.field p.text.fieldText)
        (fields options e) := by
    rw [fields, hContent]
    exact (yields_described_text p).singleton
  refine hFields.bind fun fs hDescribed => yields_ok ?_
  intro line hMember
  rcases List.mem_map.mp hMember with ⟨f, hf, rfl⟩
  rcases hDescribed f hf with ⟨lead, hDescribes, hFont, rfl⟩
  exact ⟨lead, hDescribes, TextLead.read?_written hFont,
    lead.written_field _,
    fun _ _ _ => TextLead.split_unique hFont hFree⟩

------------------------------------------------------------
-- Words of Lines
------------------------------------------------------------

/- A line without carets in its texts is one field. -/
theorem wordsIn_of_mem_lines
    [Machine]
    (hFree : ∀ t ∈ e.content.printed, IsCaretFree t) :
    ∀ line ∈ Printer.lines ⟨.zpl options⟩ e,
      Text.wordsIn frameWords line = fieldWords := by
  apply Printer.forall_mem_lines
  refine (yields_fields options e).bind fun fs hShows =>
    yields_ok ?_
  intro line hMember
  rcases List.mem_map.mp hMember with ⟨f, hf, rfl⟩
  exact (hShows f hf).wordsIn_frameWords hFree

/- The settings in the lines behind the first one. -/
def settings :
    List Text :=
  ["PW", "LL", "PR", "MD", "TO"]

theorem wordsAt_setting
    {setting : Text}
    (hSetting : setting ∈ settings)
    (rest : Text) :
    Text.wordsAt frameWords (.char '^' :: (setting ++ rest)) =
      [] := by
  simp only [settings, List.mem_cons, List.not_mem_nil,
    or_false] at hSetting
  rcases hSetting with rfl | rfl | rfl | rfl | rfl
  all_goals rfl

theorem wordsIn_setting
    (setting : Text)
    (hSetting : setting ∈ settings)
    (n : Int) :
    Text.wordsIn frameWords
        (.char '^' ::
          (setting ++ Text.ofString (toString n))) = [] := by
  have hSettings : ∀ s ∈ settings, IsCaretFree s := by decide
  have hFree :
      IsCaretFree (setting ++ Text.ofString (toString n)) :=
    lacks_append.mpr
      ⟨hSettings setting hSetting,
        areForeign_caret.lacks_numeral n⟩
  rw [Text.wordsIn, wordsAt_setting hSetting,
    Text.wordsIn_of_notMem (by decide) (isCaretFree_iff.mp hFree)]
  rfl

/- The lines that open a label have only the word of the first. -/
theorem wordsIn_opening
    [Machine]
    (hWhole : (PrinterOptions.zpl options).HasWholeSettings)
    (c : Canvas) :
    Yields
      (fun lines =>
        (∃ more, lines = Text.ofString "^XA" :: more) ∧
          lines.flatMap (Text.wordsIn frameWords) =
            [Text.ofString "^XA"])
      (opening options c) := by
  rcases options with ⟨scale, speed, density, tearOff⟩
  obtain ⟨⟨n, rfl⟩, ⟨m, rfl⟩, ⟨k, rfl⟩⟩ :
      (∃ n : Int, speed = .int n) ∧
        (∃ m : Int, density = .int m) ∧
        ∃ k : Int, tearOff = .int k := by
    simpa [PrinterOptions.HasWholeSettings,
      PrinterOptions.ownFields] using hWhole
  refine yields_bind fun width => yields_bind fun height =>
    yields_bind fun _ => yields_bind fun _ => yields_bind fun _ =>
      yields_ok ⟨⟨_, rfl⟩, ?_⟩
  have hTearOff :
      (tearOffLines ⟨scale, .int n, .int m, .int k⟩).flatMap
        (Text.wordsIn frameWords) = [] := by
    unfold tearOffLines
    split_ifs with hNone
    · rfl
    · rw [List.flatMap_singleton]
      exact wordsIn_setting "TO" (by decide) k
  have hWidth :
      Text.wordsIn frameWords ("^PW" ++ toString width) = [] :=
    wordsIn_setting "PW" (by decide) width
  have hHeight :
      Text.wordsIn frameWords ("^LL" ++ toString height) = [] :=
    wordsIn_setting "LL" (by decide) height
  have hSpeed :
      Text.wordsIn frameWords ("^PR" ++ (Value.int n).toText) =
        [] :=
    wordsIn_setting "PR" (by decide) n
  have hDensity :
      Text.wordsIn frameWords ("^MD" ++ (Value.int m).toText) =
        [] :=
    wordsIn_setting "MD" (by decide) m
  rw [List.flatMap_append, hTearOff, List.append_nil]
  simp only [List.flatMap_cons, List.flatMap_nil,
    List.append_nil, hWidth, hHeight, hSpeed, hDensity]
  rfl

------------------------------------------------------------
-- Balance
------------------------------------------------------------

/-
  Whether a stream opens one label at its start, closes it in
  front of its last newline, and has between them as many fields
  as lines, each opened and ended before the next.
-/
structure IsBalanced
    (fieldLines : List Text)
    (code : Text) :
    Prop where
  words :
    Text.wordsIn frameWords code =
      Text.ofString "^XA" ::
        ((List.replicate fieldLines.length fieldWords).flatten ++
          [Text.ofString "^XZ"])
  each :
    ∀ line ∈ fieldLines,
      Text.wordsIn frameWords line = fieldWords
  opens : Text.ofString "^XA" <+: code
  opensOnce :
    ∀ before after : Text,
      code = before ++ "^XA" ++ after → before = []
  closes : Text.ofString "^XZ\n" <:+ code
  closesOnce :
    ∀ before after : Text,
      code = before ++ "^XZ" ++ after → after = [.char '\n']

/- Among fields the words of a label are met once. -/
theorem count_label_words
    (n : Nat)
    {w : Text}
    (hWord : w ∈ [Text.ofString "^XA", Text.ofString "^XZ"]) :
    (Text.ofString "^XA" ::
        ((List.replicate n fieldWords).flatten ++
          [Text.ofString "^XZ"])).count w ≤ 1 := by
  have hOther :
      ∀ w ∈ [Text.ofString "^XA", Text.ofString "^XZ"],
        w ∉ fieldWords := by decide
  have hNone :
      w ∉ (List.replicate n fieldWords).flatten := by
    intro hMember
    rcases List.mem_flatten.mp hMember with ⟨words, hMany, hIn⟩
    rw [List.eq_of_mem_replicate hMany] at hIn
    exact hOther w hWord hIn
  rw [List.count_cons, List.count_append,
    List.count_eq_zero_of_not_mem hNone]
  simp only [List.mem_cons, List.not_mem_nil, or_false] at hWord
  rcases hWord with rfl | rfl
  · decide
  · decide

theorem isBalanced_ended
    {more fieldLines : List Text}
    {code : Text}
    (hCode :
      code =
        Text.ended
          (Text.ofString "^XA" :: more ++ fieldLines ++
            [Text.ofString "^XZ"]))
    (hOpening :
      (Text.ofString "^XA" :: more).flatMap
          (Text.wordsIn frameWords) =
        [Text.ofString "^XA"])
    (hEach :
      ∀ line ∈ fieldLines,
        Text.wordsIn frameWords line = fieldWords) :
    IsBalanced fieldLines code := by
  have hWords :
      Text.wordsIn frameWords code =
        Text.ofString "^XA" ::
          ((List.replicate fieldLines.length fieldWords).flatten ++
            [Text.ofString "^XZ"]) := by
    rw [hCode, Text.wordsIn_ended (by decide),
      List.flatMap_append, List.flatMap_append, hOpening,
      List.flatMap, List.flatMap, List.map_congr_left hEach,
      List.map_const']
    rfl
  have hOnce :
      ∀ w ∈ [Text.ofString "^XA", Text.ofString "^XZ"],
        (Text.wordsIn frameWords code).count w ≤ 1 := by
    intro w hWord
    rw [hWords]
    exact count_label_words _ hWord
  have hStart :
      ∃ rest, code = [] ++ Text.ofString "^XA" ++ rest := by
    rw [hCode, List.cons_append, List.cons_append,
      Text.ended_cons]
    exact ⟨_, rfl⟩
  have hEnd :
      ∃ front,
        code = front ++ Text.ofString "^XZ" ++ [.char '\n'] := by
    rw [hCode, Text.ended, List.flatMap_append,
      List.flatMap_singleton, ← List.append_assoc]
    exact ⟨_, rfl⟩
  rcases hStart with ⟨rest, hStart⟩
  rcases hEnd with ⟨front, hEnd⟩
  exact {
    words := hWords
    each := hEach
    opens := ⟨rest, hStart.symm⟩
    opensOnce := by
      intro before after hText
      exact (Text.eq_of_word_once (by decide) (by decide)
        (hOnce _ (by decide)) hText hStart).1
    closes := ⟨front, by rw [hEnd, List.append_assoc]; rfl⟩
    closesOnce := by
      intro before after hText
      exact (Text.eq_of_word_once (by decide) (by decide)
        (hOnce _ (by decide)) hText hEnd).2 }

end Zpl

------------------------------------------------------------
-- Emission
------------------------------------------------------------

/-
  A ZPL stream whose printed texts have no carets is balanced: it
  is one label, and its fields are the lines of the blocks.  The
  line of each text falls apart in one way into the text and what
  tells how it is printed, and that can be read.
-/
theorem emitLabel_balanced
    [Machine]
    {entries : List Entry}
    {canvas : CanvasSource}
    {options : OptionSource}
    {p : Printer}
    {code : Text}
    (hBuilt : options.built? = none)
    (hPrinter :
      (Printer.ofSource (.text Protocol.zpl.name) options).result =
        .ok p)
    (hFree :
      ∀ t, p.Prints entries t → CodePoint.char '^' ∉ t)
    (hCode :
      (emitLabel (.text Protocol.zpl.name) (.entries entries)
        canvas options).result = .ok code) :
    ∃ o opening blocks,
      p = ⟨.zpl o⟩ ∧ p.Emits entries canvas opening blocks ∧
        code =
          Text.ended
            (opening ++ blocks.flatten ++
              [Text.ofString "^XZ"]) ∧
        Zpl.IsBalanced blocks.flatten code ∧
        ∀ entry ∈ entries, ∀ e properties,
          entry.coerced? = some e →
          e.content = .text (.record properties) →
          ∀ line ∈ p.lines e,
            line ∈ blocks.flatten ∧
              Zpl.IsTextLine o.scale e properties line := by
  rw [emitLabel, Outcome.result_bind, hPrinter] at hCode
  rcases Printer.yields_ofSource hBuilt .zpl p hPrinter with
    ⟨hZpl, hWhole⟩
  rcases Printer.emit_eq_ok_iff.mp hCode with
    ⟨c, opening, hCanvas, hOpening, hPlaced, hClosing, hLines⟩
  rcases p with ⟨o | _ | _⟩
  case zpl =>
    rw [Printer.joined_eq_ended
      (by simp [Printer.closing, Zpl.closing])] at hLines
    rcases Zpl.wordsIn_opening hWhole c opening hOpening with
      ⟨⟨more, rfl⟩, hStart⟩
    have hShown :
        ∀ entry ∈ entries, ∀ e, entry.coerced? = some e →
          Printer.lines ⟨.zpl o⟩ e ≠ [] →
          ∀ t ∈ e.content.printed, Zpl.IsCaretFree t :=
      fun entry hEntry e he hSome t hText =>
        Zpl.isCaretFree_iff.mpr
          (hFree t ⟨entry, hEntry, e, he, hSome, hText⟩)
    have hEach :
        ∀ line ∈ (Printer.blocks ⟨.zpl o⟩ entries).flatten,
          Text.wordsIn Zpl.frameWords line = Zpl.fieldWords := by
      intro line hLine
      rcases Printer.mem_flatten_blocks.mp hLine with
        ⟨entry, hEntry, e, he, hMember⟩
      exact Zpl.wordsIn_of_mem_lines
        (hShown entry hEntry e he (List.ne_nil_of_mem hMember))
        line hMember
    refine ⟨o, _, _, rfl,
      Printer.emits_blocks hCanvas hOpening hPlaced hClosing, hLines,
      Zpl.isBalanced_ended hLines hStart hEach, ?_⟩
    intro entry hEntry e properties he hContent line hLine
    refine ⟨Printer.mem_flatten_blocks.mpr
      ⟨entry, hEntry, e, he, hLine⟩, ?_⟩
    have hData : Zpl.IsCaretFree properties.text.fieldText := by
      refine hShown entry hEntry e he
        (List.ne_nil_of_mem hLine) _ ?_
      rw [hContent]
      exact List.mem_singleton_self _
    exact Zpl.isTextLine_of_mem_lines hContent hData line hLine
  all_goals cases hZpl

/- A text on top of a box with rounded corners. -/
theorem emitLabel_balanced_corners :
    let box : Entry :=
      .object
        [("type", .text "box"),
          ("properties", .object [("cornerRadius", .int 2)])]
    let entries : List Entry := [box, textEntry "FD1"]
    let o : ZplOptions :=
      ⟨⟨.double 203, 203, .dots, rfl⟩, .int 4, .int 8, .int 0⟩
    let code : Text :=
      Printer.joined ["^XA", "^PW400", "^LL300", "^PR4", "^MD8",
        "^FO0,0^GB0,0,2,B^FS", "^FO2,0^GB-4,2,2,B^FS",
        "^FO0,0^AAN,14,12^FDFD1^FS", "^XZ"]
    (emitLabel (.text Protocol.zpl.name) (.entries entries)
        (.data .null) (.data .null)).result = .ok code ∧
      ∃ opening blocks,
        Printer.Emits ⟨.zpl o⟩ entries (.data .null) opening
            blocks ∧
          Zpl.IsBalanced blocks.flatten code := by
  intro box entries o code
  have hCode :
      (emitLabel (.text Protocol.zpl.name) (.entries entries)
        (.data .null) (.data .null)).result = .ok code := by
    simp only [entries, box, code]
    decide +kernel
  have hPrinter :
      (Printer.ofSource (.text Protocol.zpl.name)
          (.data .null)).result = .ok ⟨.zpl o⟩ := by
    rw [Printer.ofSource_name]
    rfl
  have hFree :
      ∀ t, Printer.Prints ⟨.zpl o⟩ entries t →
        CodePoint.char '^' ∉ t := by
    rintro t ⟨entry, hEntry, e, he, _, hText⟩
    simp only [entries, List.mem_cons, List.not_mem_nil,
      or_false] at hEntry
    rcases hEntry with rfl | rfl
    · obtain rfl := Option.some.inj he
      cases hText
    · obtain rfl := Option.some.inj he
      obtain rfl := List.mem_singleton.mp hText
      decide
  rcases emitLabel_balanced rfl hPrinter hFree hCode with
    ⟨_, opening, blocks, _, hEmits, _, hBalanced, _⟩
  exact ⟨hCode, opening, blocks, hEmits, hBalanced⟩

end LabelPress

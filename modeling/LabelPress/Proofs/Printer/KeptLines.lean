import LabelPress.Proofs.Printer.Lines
import LabelPress.Proofs.Printer.Shortening

/-
  The lines that shortening keeps.

  Fields of ZPL end in `^FS` and its settings have no commas, so
  that no line ends in an origin.  Lines of the other languages
  start with none.  In either case there is no repeated origin
  in a stream.

  Main declarations:
    * `PrinterOptions.yields_ofSource`
    * `Protocol.IsOpeningLine`, `Printer.yields_opening`
    * `Protocol.IsClosing`, `Printer.exists_closing`
    * `Protocol.Keeps`, `Printer.yields_block`
    * `Protocol.collapse_of_keeps`
-/

namespace LabelPress

------------------------------------------------------------
-- Settings
------------------------------------------------------------

/- Whether all settings but the scale are integers. -/
def PrinterOptions.HasWholeSettings
    (o : PrinterOptions) :
    Prop :=
  ∀ field ∈ o.ownFields, ∃ n : Int, field.2 = .int n

theorem OptionFields.yields_whole
    [Machine]
    (fields : Fields)
    (key second : Text)
    (default : Int) :
    Outcome.Yields (fun v => ∃ n : Int, v = .int n)
      (whole fields key second default).result := by
  unfold whole
  dsimp only
  split_ifs with hNull
  · exact Outcome.yields_ok ⟨default, rfl⟩
  · split
    · exact Outcome.yields_ok ⟨_, rfl⟩
    · exact Outcome.yields_error _
    · rw [ignoring, Outcome.result_bind]
      exact Outcome.yields_bind fun _ =>
        Outcome.yields_ok ⟨default, rfl⟩

section Whole

open Outcome (Yields yields_ok yields_bind)
open OptionFields (yields_whole)

/- Settings that fields describe are integers. -/
theorem PrinterOptions.yields_ofSource
    [Machine]
    {options : OptionSource}
    (hBuilt : options.built? = none)
    (protocol : Protocol) :
    Yields (fun o => o.protocol = protocol ∧ o.HasWholeSettings)
      (ofSource protocol options).result := by
  have hMade :
      ∀ {α : Type} {x : Except Fault α}
        {make : α → PrinterOptions},
        Yields
            (fun a => (make a).protocol = protocol ∧
              (make a).HasWholeSettings) x →
          Yields
            (fun o => o.protocol = protocol ∧
              o.HasWholeSettings)
            (x >>= fun a => .ok (make a)) := by
    intro α x make hOptions
    exact hOptions.bind fun _ hWhole => yields_ok hWhole
  cases protocol with
  | zpl =>
      simp only [ofSource, ZplOptions.ofSource, hBuilt,
        ZplOptions.ofFields, Outcome.result_bind,
        Outcome.result_liftM, Outcome.result_pure]
      refine hMade (yields_bind fun fields =>
        yields_bind fun dpi => yields_bind fun units => ?_)
      refine (yields_whole _ _ _ _).bind fun speed hSpeed => ?_
      refine (yields_whole _ _ _ _).bind fun density hDensity => ?_
      refine (yields_whole _ _ _ _).bind fun tearOff hTearOff => ?_
      refine yields_bind fun scale => yields_ok ⟨rfl, ?_⟩
      simp only [HasWholeSettings, ownFields,
        List.forall_mem_cons]
      exact ⟨hSpeed, hDensity, hTearOff, by simp⟩
  | epl =>
      simp only [ofSource, EplOptions.ofSource, hBuilt,
        EplOptions.ofFields, Outcome.result_bind,
        Outcome.result_liftM, Outcome.result_pure]
      refine hMade (yields_bind fun fields =>
        yields_bind fun dpi => yields_bind fun units => ?_)
      refine (yields_whole _ _ _ _).bind fun speed hSpeed => ?_
      refine (yields_whole _ _ _ _).bind fun density hDensity => ?_
      refine (yields_whole _ _ _ _).bind fun copies hCopies => ?_
      refine (yields_whole _ _ _ _).bind fun gap hGap => ?_
      refine yields_bind fun scale => yields_ok ⟨rfl, ?_⟩
      simp only [HasWholeSettings, ownFields,
        List.forall_mem_cons]
      exact ⟨hSpeed, hDensity, hCopies, hGap, by simp⟩
  | dpl =>
      simp only [ofSource, DplOptions.ofSource, hBuilt,
        DplOptions.ofFields, Outcome.result_bind,
        Outcome.result_liftM, Outcome.result_pure]
      refine hMade (yields_bind fun fields =>
        yields_bind fun dpi => yields_bind fun units => ?_)
      refine (yields_whole _ _ _ _).bind fun quantity hQuantity =>
        ?_
      refine yields_bind fun scale => yields_ok ⟨rfl, ?_⟩
      simp only [HasWholeSettings, ownFields,
        List.forall_mem_cons]
      exact ⟨hQuantity, by simp⟩

end Whole

------------------------------------------------------------
-- Lines that Open and Close a Label
------------------------------------------------------------

namespace Protocol

/- The commands that open the labels of a language. -/
def openingCommands :
    Protocol → List Text
  | .zpl => ["^XA", "^PW", "^LL", "^PR", "^MD", "^TO"]
  | .epl => ["N", "S", "D", "ZT", "q", "Q"]
  | .dpl => [[Dpl.startOfText, 'L'], "H", "W", "Q"]

/-
  Whether a line is such a command with numerals behind it, which
  EPL separates by a comma.
-/
def IsOpeningLine
    (protocol : Protocol)
    (line : Text) :
    Prop :=
  ∃ command ∈ protocol.openingCommands, ∃ rest : Text,
    line = command ++ rest ∧
      ∀ c ∈ rest, c.isNumeral = true ∨
        (protocol = .epl ∧ c = .char ',')

/- The lines that close the labels of a language. -/
def IsClosing
    (protocol : Protocol)
    (last : Text) :
    Prop :=
  match protocol with
  | .zpl => last = Text.ofString "^XZ"
  | .epl =>
      ∃ copies : Int,
        last = Text.ofString "P" ++ Text.ofString (toString copies)
  | .dpl => last = Text.ofString "E"

variable {protocol : Protocol}
variable {command : Text}

theorem isOpeningLine_command
    (hCommand : command ∈ protocol.openingCommands) :
    protocol.IsOpeningLine command :=
  ⟨command, hCommand, [], (List.append_nil command).symm,
    by simp⟩

theorem isOpeningLine_setting
    (n : Int)
    (hCommand : command ∈ protocol.openingCommands) :
    protocol.IsOpeningLine
      (command ++ Text.ofString (toString n)) :=
  ⟨command, hCommand, _, rfl,
    fun _ hMember => .inl (Text.isNumeral_of_mem_numeral hMember)⟩

/- The line of EPL with two numerals. -/
theorem isOpeningLine_pair
    (n m : Int) :
    Protocol.epl.IsOpeningLine
      (Text.ofString "Q" ++ Text.ofString (toString n) ++
        Text.ofString "," ++ Text.ofString (toString m)) := by
  refine ⟨Text.ofString "Q", by decide,
    Text.ofString (toString n) ++
      (Text.ofString "," ++ Text.ofString (toString m)), ?_, ?_⟩
  · rw [List.append_assoc, List.append_assoc]
  · intro c hMember
    rcases List.mem_append.mp hMember with hFirst | hBehind
    · exact .inl (Text.isNumeral_of_mem_numeral hFirst)
    · rcases List.mem_append.mp hBehind with hComma | hSecond
      · exact .inr ⟨rfl, List.mem_singleton.mp hComma⟩
      · exact .inl (Text.isNumeral_of_mem_numeral hSecond)

end Protocol

namespace Printer

open Outcome (Yields yields_ok yields_bind)
open Protocol (isOpeningLine_command isOpeningLine_setting
  isOpeningLine_pair)

variable {p : Printer}

theorem isOpeningLine_of_mem_tearOffLines
    {o : ZplOptions}
    {n : Int}
    (hWhole : o.tearOff = .int n) :
    ∀ line ∈ Zpl.tearOffLines o,
      Protocol.zpl.IsOpeningLine line := by
  intro line hMember
  rw [Zpl.tearOffLines, hWhole] at hMember
  split_ifs at hMember with hNone
  · cases hMember
  · obtain rfl := List.mem_singleton.mp hMember
    exact isOpeningLine_setting n (by decide)

/- The lines that open a label are commands with numerals. -/
theorem yields_opening
    [Machine]
    (hWhole : p.options.HasWholeSettings)
    (c : Canvas) :
    Yields
      (fun lines => ∀ line ∈ lines,
        p.protocol.IsOpeningLine line)
      (p.opening c) := by
  rcases p with ⟨options⟩
  unfold opening
  cases options with
  | zpl o =>
      rcases o with ⟨scale, speed, density, tearOff⟩
      obtain ⟨⟨n, rfl⟩, ⟨m, rfl⟩, ⟨k, rfl⟩⟩ :
          (∃ n : Int, speed = .int n) ∧
            (∃ m : Int, density = .int m) ∧
            ∃ k : Int, tearOff = .int k := by
        simpa [PrinterOptions.HasWholeSettings,
          PrinterOptions.ownFields] using hWhole
      refine yields_bind fun width => yields_bind fun height =>
        yields_bind fun _ => yields_bind fun _ =>
          yields_bind fun _ =>
            yields_ok (List.forall_mem_append.mpr
              ⟨?_, isOpeningLine_of_mem_tearOffLines rfl⟩)
      change ∀ line ∈ _, Protocol.zpl.IsOpeningLine line
      simp only [List.forall_mem_cons]
      refine ⟨?_, ?_, ?_, ?_, ?_, by simp⟩
      · exact isOpeningLine_command (by decide)
      · exact isOpeningLine_setting width (by decide)
      · exact isOpeningLine_setting height (by decide)
      · exact isOpeningLine_setting n (by decide)
      · exact isOpeningLine_setting m (by decide)
  | epl o =>
      rcases o with ⟨scale, speed, density, copies, gap⟩
      obtain ⟨⟨n, rfl⟩, ⟨m, rfl⟩, -, ⟨k, rfl⟩⟩ :
          (∃ n : Int, speed = .int n) ∧
            (∃ m : Int, density = .int m) ∧
            (∃ n : Int, copies = .int n) ∧
            ∃ k : Int, gap = .int k := by
        simpa [PrinterOptions.HasWholeSettings,
          PrinterOptions.ownFields] using hWhole
      refine yields_bind fun _ => yields_bind fun _ =>
        yields_bind fun width => yields_bind fun height =>
          yields_bind fun _ => yields_ok ?_
      change ∀ line ∈ _, Protocol.epl.IsOpeningLine line
      simp only [List.forall_mem_cons]
      refine ⟨?_, ?_, ?_, ?_, ?_, ?_, by simp⟩
      · exact isOpeningLine_command (by decide)
      · exact isOpeningLine_setting n (by decide)
      · exact isOpeningLine_setting m (by decide)
      · exact isOpeningLine_command (by decide)
      · exact isOpeningLine_setting width (by decide)
      · exact isOpeningLine_pair height k
  | dpl o =>
      rcases o with ⟨scale, quantity⟩
      obtain ⟨n, rfl⟩ : ∃ n : Int, quantity = .int n := by
        simpa [PrinterOptions.HasWholeSettings,
          PrinterOptions.ownFields] using hWhole
      refine yields_bind fun height => yields_bind fun width =>
        yields_bind fun _ => yields_ok ?_
      change ∀ line ∈ _, Protocol.dpl.IsOpeningLine line
      simp only [List.forall_mem_cons]
      refine ⟨?_, ?_, ?_, ?_, by simp⟩
      · exact isOpeningLine_command (by decide)
      · exact isOpeningLine_setting height (by decide)
      · exact isOpeningLine_setting width (by decide)
      · exact isOpeningLine_setting n (by decide)

/- The line that closes a label. -/
theorem exists_closing
    (hWhole : p.options.HasWholeSettings) :
    ∃ last, p.closing = [last] ∧ p.protocol.IsClosing last := by
  rcases p with ⟨options⟩
  cases options with
  | zpl o => exact ⟨_, rfl, rfl⟩
  | epl o =>
      rcases o with ⟨scale, speed, density, copies, gap⟩
      obtain ⟨n, rfl⟩ : ∃ n : Int, copies = .int n :=
        hWhole ("copies", copies)
          (by simp [PrinterOptions.ownFields])
      exact ⟨_, rfl, n, rfl⟩
  | dpl o => exact ⟨_, rfl, rfl⟩

end Printer

------------------------------------------------------------
-- Lines that Shortening Keeps
------------------------------------------------------------

/-
  Whether a line has no newline and neither ends in an origin, in
  ZPL, nor starts with a command, in the other languages.
-/
def Protocol.Keeps
    (protocol : Protocol)
    (line : Text) :
    Prop :=
  line.IsLine ∧
    match protocol with
    | .zpl => ∀ o, Optimizer.IsOrigin o → ¬ o <:+ line
    | .epl | .dpl => line.head? ≠ some (.char '^')

theorem Zpl.keeps_written
    {f : Zpl.Field}
    (hLine : f.written.IsLine) :
    Protocol.zpl.Keeps f.written := by
  refine ⟨hLine, ?_⟩
  intro o hOrigin hEnds
  rcases hOrigin.digit_of_suffix hEnds with
    ⟨c, hLast, hDigit⟩
  rcases Zpl.suffix_written f with ⟨before, hEnd⟩
  rw [← hEnd, List.getLast?_append] at hLast
  obtain rfl := Option.some.inj hLast
  exact absurd hDigit (by decide +kernel)

/- A line without a comma ends in no origin. -/
theorem Zpl.keeps_of_comma_notMem
    {line : Text}
    (hLine : line.IsLine)
    (hComma : .char ',' ∉ line) :
    Protocol.zpl.Keeps line := by
  refine ⟨hLine, ?_⟩
  intro o hOrigin hEnds
  exact hComma (hEnds.subset hOrigin.comma_mem)

section Commands

variable {protocol : Protocol}
variable {command : Text}

/- A line that starts with another character is kept. -/
theorem Protocol.keeps_of_head?
    (hOther : protocol ≠ .zpl)
    (hLine : command.IsLine)
    (hHead : command.head? ≠ some (.char '^')) :
    protocol.Keeps command := by
  refine ⟨hLine, ?_⟩
  cases protocol with
  | zpl => exact absurd rfl hOther
  | epl => exact hHead
  | dpl => exact hHead

theorem Protocol.keeps_command
    {rest : Text}
    (hOther : protocol ≠ .zpl)
    (hSome : command ≠ [])
    (hLine : command.IsLine)
    (hHead : command.head? ≠ some (.char '^'))
    (hRest : rest.IsLine) :
    protocol.Keeps (command ++ rest) := by
  apply keeps_of_head? hOther
  · exact Text.isLine_append.mpr ⟨hLine, hRest⟩
  · rw [List.head?_append_of_ne_nil _ hSome]
    exact hHead

/- The lines that open a label are kept. -/
theorem Protocol.IsOpeningLine.keeps
    {line : Text}
    (hOpening : protocol.IsOpeningLine line) :
    protocol.Keeps line := by
  rcases hOpening with ⟨command, hCommand, rest, rfl, hRest⟩
  have hLine : rest.IsLine := by
    intro hMember
    rcases hRest _ hMember with hNumeral | ⟨_, hComma⟩
    · exact absurd hNumeral (by decide)
    · exact absurd hComma (by decide)
  cases protocol with
  | zpl =>
      have hCommands :
          ∀ t ∈ Protocol.zpl.openingCommands,
            t.IsLine ∧ .char ',' ∉ t := by decide
      rcases hCommands command hCommand with ⟨hFirst, hNone⟩
      apply Zpl.keeps_of_comma_notMem
      · exact Text.isLine_append.mpr ⟨hFirst, hLine⟩
      · rw [List.mem_append, not_or]
        refine ⟨hNone, fun hMember => ?_⟩
        rcases hRest _ hMember with hNumeral | ⟨hEpl, _⟩
        · exact absurd hNumeral (by decide)
        · cases hEpl
  | epl =>
      have hCommands :
          ∀ t ∈ Protocol.epl.openingCommands,
            t ≠ [] ∧ t.IsLine ∧ t.head? ≠ some (.char '^') := by
        decide
      rcases hCommands command hCommand with
        ⟨hSome, hFirst, hHead⟩
      exact keeps_command (by decide) hSome hFirst hHead hLine
  | dpl =>
      have hCommands :
          ∀ t ∈ Protocol.dpl.openingCommands,
            t ≠ [] ∧ t.IsLine ∧ t.head? ≠ some (.char '^') := by
        decide
      rcases hCommands command hCommand with
        ⟨hSome, hFirst, hHead⟩
      exact keeps_command (by decide) hSome hFirst hHead hLine

/- The lines that close a label are kept. -/
theorem Protocol.IsClosing.keeps
    {last : Text}
    (hClosing : protocol.IsClosing last) :
    protocol.Keeps last := by
  cases protocol with
  | zpl =>
      obtain rfl : last = Text.ofString "^XZ" := hClosing
      exact Zpl.keeps_of_comma_notMem (by decide) (by decide)
  | epl =>
      rcases hClosing with ⟨copies, rfl⟩
      exact keeps_command (by decide) (by decide) (by decide)
        (by decide) (Text.isLine_numeral copies)
  | dpl =>
      obtain rfl : last = Text.ofString "E" := hClosing
      exact keeps_of_head? (by decide) (by decide) (by decide)

end Commands

namespace Printer

open Outcome (Yields yields_ok)

variable {p : Printer}

theorem keeps_of_mem_closing
    (hWhole : p.options.HasWholeSettings) :
    ∀ line ∈ p.closing, p.protocol.Keeps line := by
  rcases exists_closing hWhole with ⟨last, hLast, hClosing⟩
  rw [hLast, List.forall_mem_singleton]
  exact hClosing.keeps

theorem yields_block
    [Machine]
    {e : Element}
    (hPrinted : ∀ t ∈ e.content.printed, t.IsLine) :
    Yields (fun lines => ∀ line ∈ lines, p.protocol.Keeps line)
      (p.block e) := by
  rcases p with ⟨options⟩
  unfold block
  cases options with
  | zpl o =>
      refine (Zpl.yields_fields o e).bind fun fs hShows =>
        yields_ok ?_
      intro line hMember
      rcases List.mem_map.mp hMember with ⟨f, hf, rfl⟩
      exact Zpl.keeps_written
        ((hShows f hf).isLine_iff.mpr hPrinted)
  | epl o =>
      refine (Epl.yields_records o e).bind fun rs hShows =>
        yields_ok ?_
      intro line hMember
      rcases List.mem_map.mp hMember with ⟨r, hr, rfl⟩
      exact ⟨(hShows r hr).isLine_iff.mpr hPrinted,
        (Epl.startsRecord_code r _).head?_ne (by decide)⟩
  | dpl o =>
      refine (Dpl.yields_records o e).bind fun rs hShows =>
        yields_ok ?_
      intro line hMember
      rcases List.mem_map.mp hMember with ⟨r, hr, rfl⟩
      refine ⟨(hShows r hr).isLine_iff.mpr hPrinted, ?_⟩
      change r.written.head? ≠ some (.char '^')
      rw [Dpl.head?_written]
      decide

end Printer

/- Nothing is collapsed in lines that are kept. -/
theorem Protocol.collapse_of_keeps
    {protocol : Protocol}
    {lines : List Text}
    (hKeeps : ∀ line ∈ lines, protocol.Keeps line) :
    Optimizer.collapse 0 (Text.ended lines) =
      Text.ended lines := by
  apply Optimizer.collapse_ended
  · intro line hMember
    exact (hKeeps line hMember).1
  · intro line hLine next hNext o hOrigin hEnds hStarts
    have hFirst := (hKeeps line hLine).2
    have hSecond := (hKeeps next hNext).2
    have hHead : next.head? = some (.char '^') := by
      rcases hOrigin.starts.trans hStarts with ⟨rest, rfl⟩
      rfl
    cases protocol with
    | zpl => exact hFirst o hOrigin hEnds
    | epl => exact hSecond hHead
    | dpl => exact hSecond hHead

end LabelPress

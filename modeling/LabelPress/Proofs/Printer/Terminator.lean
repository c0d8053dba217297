import LabelPress.Proofs.Printer.KeptLines
import LabelPress.Proofs.Text.Parts

/-
  The terminators of labels.

  A ZPL label ends at its terminator wherever that stands.  In
  the other languages the terminator has a line to itself.  No
  setting and no command of a field or a record ends a label, so
  that a line ends one only through the text that it shows.

  Main declarations:
    * `Protocol.EndsIn`, `Protocol.EndsOnce`, `Protocol.Cuts`
    * `Protocol.endsOnce_ended_iff`
    * `Protocol.IsOpeningLine.isQuiet`
    * `Protocol.ShowsIn`, `Printer.yields_shown_block`
-/

namespace LabelPress

------------------------------------------------------------
-- Terminators
------------------------------------------------------------

namespace Protocol

/- Whether a label ends within a line. -/
def EndsIn
    (protocol : Protocol)
    (last line : Text) :
    Prop :=
  match protocol with
  | .zpl => last <:+: line
  | .epl | .dpl => last ∈ Text.partsBetween '\n' line

/-
  Whether a stream has its terminator at its end, in front of the
  last newline, and nowhere else.
-/
def EndsOnce
    (protocol : Protocol)
    (last code : Text) :
    Prop :=
  match protocol with
  | .zpl =>
      ∀ before after : Text,
        code = before ++ last ++ after → after = [.char '\n']
  | .epl | .dpl =>
      ∀ before after : List Text,
        Text.partsBetween '\n' code = before ++ last :: after →
          after = [[]]

/-
  Whether a text ends the label that it is printed on.  In EPL it
  is printed between quotes, so that its first and last lines are
  no lines of the stream; in DPL it is printed at the end of a
  record.
-/
def Cuts
    (protocol : Protocol)
    (last data : Text) :
    Prop :=
  match protocol with
  | .zpl => last <:+: data
  | .epl => last ∈ (Text.partsBetween '\n' data).tail.dropLast
  | .dpl => last ∈ (Text.partsBetween '\n' data).tail

variable {protocol : Protocol}
variable {last : Text}

theorem IsClosing.ne_nil
    (hClosing : protocol.IsClosing last) :
    last ≠ [] := by
  cases protocol with
  | zpl =>
      obtain rfl : last = Text.ofString "^XZ" := hClosing
      exact List.cons_ne_nil _ _
  | epl =>
      rcases hClosing with ⟨copies, rfl⟩
      exact List.cons_ne_nil _ _
  | dpl =>
      obtain rfl : last = Text.ofString "E" := hClosing
      exact List.cons_ne_nil _ _

/- A stream ends once if no line before the last one ends it. -/
theorem endsOnce_ended_iff
    {front : List Text}
    (hClosing : protocol.IsClosing last) :
    protocol.EndsOnce last (Text.ended (front ++ [last])) ↔
      ∀ line ∈ front, ¬ protocol.EndsIn last line := by
  cases protocol with
  | zpl =>
      exact Text.only_at_end_iff hClosing.ne_nil hClosing.keeps.1
  | epl =>
      exact Text.only_part_at_end_iff hClosing.ne_nil
        hClosing.keeps.1
  | dpl =>
      exact Text.only_part_at_end_iff hClosing.ne_nil
        hClosing.keeps.1

------------------------------------------------------------
-- Lines That End No Label
------------------------------------------------------------

/- Whether a line lacks a letter that a terminator has there. -/
def IsQuiet
    (protocol : Protocol)
    (line : Text) :
    Prop :=
  match protocol with
  | .zpl => .char 'Z' ∉ line
  | .epl => line.head? ≠ some (.char 'P')
  | .dpl => line.head? ≠ some (.char 'E')

theorem IsQuiet.not_endsIn
    {line : Text}
    (hQuiet : protocol.IsQuiet line)
    (hLine : line.IsLine)
    (hClosing : protocol.IsClosing last) :
    ¬ protocol.EndsIn last line := by
  intro hEnds
  cases protocol with
  | zpl =>
      obtain rfl : last = Text.ofString "^XZ" := hClosing
      exact hQuiet (hEnds.subset (by decide))
  | epl =>
      rcases hClosing with ⟨copies, rfl⟩
      rw [EndsIn, Text.partsBetween_of_notMem hLine,
        List.mem_singleton] at hEnds
      rw [← hEnds] at hQuiet
      exact hQuiet rfl
  | dpl =>
      obtain rfl : last = Text.ofString "E" := hClosing
      rw [EndsIn, Text.partsBetween_of_notMem hLine,
        List.mem_singleton] at hEnds
      rw [← hEnds] at hQuiet
      exact hQuiet rfl

/- The lines that open a label do not end it. -/
theorem IsOpeningLine.isQuiet
    {line : Text}
    (hOpening : protocol.IsOpeningLine line) :
    protocol.IsQuiet line := by
  rcases hOpening with ⟨command, hCommand, rest, rfl, hRest⟩
  cases protocol with
  | zpl =>
      have hCommands :
          ∀ t ∈ Protocol.zpl.openingCommands,
            CodePoint.char 'Z' ∉ t := by decide
      change _ ∉ command ++ rest
      rw [List.mem_append, not_or]
      refine ⟨hCommands command hCommand, fun hMember => ?_⟩
      rcases hRest _ hMember with hNumeral | ⟨hEpl, _⟩
      · exact absurd hNumeral (by decide)
      · cases hEpl
  | epl =>
      have hCommands :
          ∀ t ∈ Protocol.epl.openingCommands,
            t ≠ [] ∧ t.head? ≠ some (.char 'P') := by decide
      rcases hCommands command hCommand with ⟨hSome, hHead⟩
      change (command ++ rest).head? ≠ _
      rw [List.head?_append_of_ne_nil _ hSome]
      exact hHead
  | dpl =>
      have hCommands :
          ∀ t ∈ Protocol.dpl.openingCommands,
            t ≠ [] ∧ t.head? ≠ some (.char 'E') := by decide
      rcases hCommands command hCommand with ⟨hSome, hHead⟩
      change (command ++ rest).head? ≠ _
      rw [List.head?_append_of_ne_nil _ hSome]
      exact hHead

end Protocol

------------------------------------------------------------
-- Shown Texts
------------------------------------------------------------

/- What stands around the text of a field ends no label. -/
theorem Zpl.infix_around_data
    {lead data : Text}
    (hLead : .char 'Z' ∉ lead) :
    Text.ofString "^XZ" <:+:
        lead ++ Text.ofString "^FD" ++ data ++
          Text.ofString "^FS" ↔
      Text.ofString "^XZ" <:+: data := by
  have hText :
      lead ++ Text.ofString "^FD" ++ data ++
          Text.ofString "^FS" =
        (lead ++ Text.ofString "^F") ++ .char 'D' ::
          ((data ++ [.char '^']) ++ .char 'F' :: [.char 'S']) := by
    simp [Text.ofString, List.append_assoc]
  have hMark : CodePoint.char 'Z' ∈ Text.ofString "^XZ" := by
    decide
  have hBefore :
      ¬ Text.ofString "^XZ" <:+: lead ++ Text.ofString "^F" := by
    intro hEnds
    rcases List.mem_append.mp (hEnds.subset hMark) with
      hHere | hThere
    · exact hLead hHere
    · exact absurd hThere (by decide)
  have hBehind :
      ¬ Text.ofString "^XZ" <:+ data ++ [.char '^'] := by
    intro hEnds
    rcases List.suffix_concat_iff.mp hEnds with
      hNone | ⟨rest, hRest, _⟩
    · cases hNone
    · have hLast := congrArg List.getLast? hRest
      rw [List.getLast?_concat] at hLast
      exact absurd hLast (by decide)
  rw [hText, Text.infix_append_cons_iff (by decide),
    Text.infix_append_cons_iff (by decide),
    List.infix_concat_iff]
  constructor
  · rintro (hFirst | (hEnd | hData) | hLast)
    · exact absurd hFirst hBefore
    · exact absurd hEnd hBehind
    · exact hData
    · exact absurd (hLast.subset hMark) (by decide)
  · exact fun hData => .inr (.inl (.inr hData))

/- A field ends a label if the text that it shows does. -/
theorem Zpl.Field.Shows.endsIn_iff
    {f : Field}
    {texts : List Text}
    {last : Text}
    (hShows : f.Shows texts)
    (hClosing : Protocol.zpl.IsClosing last) :
    Protocol.zpl.EndsIn last f.written ↔
      ∃ t ∈ texts, Protocol.zpl.Cuts last t := by
  rcases hShows.exists_lead with
    ⟨lead, hLead, ⟨rfl, hWritten⟩ | ⟨data, rfl, hWritten⟩⟩
  · have hLine : f.written.IsLine :=
      hShows.isLine_iff.mpr (by simp)
    have hQuiet : Protocol.zpl.IsQuiet f.written := by
      change _ ∉ f.written
      rw [hWritten, List.mem_append, not_or]
      exact ⟨hLead _ (by decide), by decide⟩
    simp only [List.not_mem_nil, false_and, exists_false,
      iff_false]
    exact hQuiet.not_endsIn hLine hClosing
  · obtain rfl : last = Text.ofString "^XZ" := hClosing
    simp only [List.mem_singleton, exists_eq_left, hWritten]
    exact Zpl.infix_around_data (hLead _ (by decide))

/- Escaping keeps the lines of a text apart. -/
theorem Epl.partsBetween_escape
    (data : Text) :
    Text.partsBetween '\n' (escape data) =
      (Text.partsBetween '\n' data).map escape := by
  induction data with
  | nil => rfl
  | cons c cs ih =>
      cases hParts : Text.partsBetween '\n' cs with
      | nil => exact absurd hParts (Text.partsBetween_ne_nil cs)
      | cons part parts =>
          rw [hParts, List.map_cons] at ih
          by_cases hLine : c = '\n'
          · subst hLine
            rw [Text.partsBetween, if_pos rfl, hParts, escape,
              if_neg (by decide), Text.partsBetween,
              if_pos rfl, ih]
            rfl
          · rw [Text.partsBetween, if_neg hLine, hParts, escape]
            have hNone : CodePoint.char '\n' ∉ [c] := by
              rw [List.mem_singleton]
              exact Ne.symm hLine
            split_ifs with hMark
            · have hNeither :
                  CodePoint.char '\n' ∉ [Text.backslash, c] := by
                rw [List.mem_cons, not_or]
                exact ⟨by decide, hNone⟩
              have hSplit :=
                Text.partsBetween_append_left hNeither ih
              rw [List.map_cons, escape, if_pos hMark]
              exact hSplit
            · have hSplit :=
                Text.partsBetween_append_left hNone ih
              rw [List.map_cons, escape, if_neg hMark]
              exact hSplit

/- No text is escaped as one without quotes and backslashes. -/
theorem Epl.escape_eq_iff
    {s t : Text}
    (hQuote : Text.doubleQuote ∉ t)
    (hSlash : Text.backslash ∉ t) :
    escape s = t ↔ s = t := by
  induction s generalizing t with
  | nil => exact Iff.rfl
  | cons c s ih =>
      unfold escape
      split_ifs with hMark
      · constructor
        · rintro rfl
          exact absurd List.mem_cons_self hSlash
        · rintro rfl
          rcases hMark with rfl | rfl
          · exact absurd List.mem_cons_self hSlash
          · exact absurd List.mem_cons_self hQuote
      · cases t with
        | nil => simp
        | cons d t =>
            rw [List.mem_cons, not_or] at hQuote hSlash
            rw [List.cons_eq_cons, List.cons_eq_cons,
              ih hQuote.2 hSlash.2]

/- A record ends a label if the text that it shows does. -/
theorem Epl.Record.Shows.endsIn_iff
    {r : Record}
    {texts : List Text}
    {last : Text}
    (hShows : r.Shows texts)
    (hClosing : Protocol.epl.IsClosing last) :
    Protocol.epl.EndsIn last r.written ↔
      ∃ t ∈ texts, Protocol.epl.Cuts last t := by
  rcases hShows.exists_lead with
    ⟨lead, hLead, hStarts,
      ⟨rfl, hWritten⟩ | ⟨data, rfl, hWritten⟩⟩
  · have hLine : r.written.IsLine :=
      hShows.isLine_iff.mpr (by simp)
    have hQuiet : Protocol.epl.IsQuiet r.written := by
      rw [hWritten]
      exact hStarts.head?_ne (by decide)
    simp only [List.not_mem_nil, false_and, exists_false,
      iff_false]
    exact hQuiet.not_endsIn hLine hClosing
  · rcases hClosing with ⟨copies, rfl⟩
    have hLast :
        Text.doubleQuote ∉
            Text.ofString "P" ++ Text.ofString (toString copies) ∧
          Text.backslash ∉
            Text.ofString "P" ++ Text.ofString (toString copies) := by
      simp only [List.mem_append, not_or,
        Text.notMem_numeral (c := Text.doubleQuote) rfl,
        Text.notMem_numeral (c := Text.backslash) rfl]
      decide
    have hLeft :
        ¬ lead <+:
          Text.ofString "P" ++ Text.ofString (toString copies) := by
      rcases hStarts with ⟨c, hLetter, hHead⟩
      apply Text.not_prefix_of_head? hHead
      intro hSame
      obtain rfl : .char 'P' = c := Option.some.inj hSame
      exact absurd hLetter (by decide)
    have hRight :
        ¬ [Text.doubleQuote] <:+
          Text.ofString "P" ++ Text.ofString (toString copies) :=
      fun hEnds => hLast.1 (hEnds.subset List.mem_cons_self)
    rw [Protocol.EndsIn, hWritten, List.append_assoc,
      Text.mem_partsBetween_append hLead hLeft,
      Text.mem_tail_partsBetween_append (by decide) hRight,
      Epl.partsBetween_escape, ← List.map_tail,
      ← List.map_dropLast, List.mem_map]
    simp only [Epl.escape_eq_iff hLast.1 hLast.2,
      exists_eq_right, List.mem_singleton, exists_eq_left]
    rfl

/- A record ends a label if the text that it shows does. -/
theorem Dpl.Record.Shows.endsIn_iff
    {r : Record}
    {texts : List Text}
    {last : Text}
    (hShows : r.Shows texts)
    (hClosing : Protocol.dpl.IsClosing last) :
    Protocol.dpl.EndsIn last r.written ↔
      ∃ t ∈ texts, Protocol.dpl.Cuts last t := by
  obtain rfl : last = Text.ofString "E" := hClosing
  rcases hShows.exists_lead with
    ⟨lead, data, hLead, hHead, rfl, hWritten⟩
  have hOther : ¬ lead <+: Text.ofString "E" :=
    Text.not_prefix_of_head? hHead (by decide)
  rw [Protocol.EndsIn, hWritten,
    Text.mem_partsBetween_append hLead hOther]
  simp only [List.mem_singleton, exists_eq_left]
  rfl

------------------------------------------------------------
-- Lines of Printers
------------------------------------------------------------

/-
  What a line is that shows texts: it is one line if they are, and
  it ends a label if one of them does.
-/
structure Protocol.ShowsIn
    (protocol : Protocol)
    (texts : List Text)
    (line : Text) :
    Prop where
  isLine : line.IsLine ↔ ∀ t ∈ texts, t.IsLine
  endsIn :
    ∀ last, protocol.IsClosing last →
      (protocol.EndsIn last line ↔
        ∃ t ∈ texts, protocol.Cuts last t)

namespace Printer

open Outcome (Yields yields_ok)

/- The lines of an element show what its content prints. -/
theorem yields_shown_block
    [Machine]
    (p : Printer)
    (e : Element) :
    Yields
      (fun lines => ∀ line ∈ lines,
        p.protocol.ShowsIn e.content.printed line)
      (p.block e) := by
  rcases p with ⟨options⟩
  unfold block
  cases options with
  | zpl o =>
      refine (Zpl.yields_fields o e).bind fun fs hShows =>
        yields_ok ?_
      intro line hMember
      rcases List.mem_map.mp hMember with ⟨f, hf, rfl⟩
      exact ⟨(hShows f hf).isLine_iff,
        fun _ => (hShows f hf).endsIn_iff⟩
  | epl o =>
      refine (Epl.yields_records o e).bind fun rs hShows =>
        yields_ok ?_
      intro line hMember
      rcases List.mem_map.mp hMember with ⟨r, hr, rfl⟩
      exact ⟨(hShows r hr).isLine_iff,
        fun _ => (hShows r hr).endsIn_iff⟩
  | dpl o =>
      refine (Dpl.yields_records o e).bind fun rs hShows =>
        yields_ok ?_
      intro line hMember
      rcases List.mem_map.mp hMember with ⟨r, hr, rfl⟩
      exact ⟨(hShows r hr).isLine_iff,
        fun _ => (hShows r hr).endsIn_iff⟩

end Printer

end LabelPress

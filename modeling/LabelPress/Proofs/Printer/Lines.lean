import LabelPress.Printer.Stream
import LabelPress.Proofs.Outcome
import LabelPress.Proofs.Text.Lines

/-
  The lines of fields and records.

  The fields and records of an element show what its content
  prints, a text or nothing.  A line is written around the text
  that it shows, and what stands before and behind it consists of
  numerals, letters and commands.  So the line has a newline only
  if the text has one.

  Main declarations:
    * `Content.printed`
    * `Zpl.Lacks`, `Zpl.AreForeign`
    * `Zpl.Field.Shows`, `Zpl.Field.Shows.exists_lead`
    * `Epl.Record.Shows`, `Epl.Record.Shows.exists_lead`
    * `Dpl.Record.Shows`, `Dpl.Record.Shows.exists_lead`
    * `Zpl.yields_fields`, `Epl.yields_records`,
      `Dpl.yields_records`
-/

namespace LabelPress

------------------------------------------------------------
-- Contents
------------------------------------------------------------

/- The texts that the records of a content print. -/
def Content.printed :
    Content → List Text
  | .text (.record p) => [p.text.fieldText]
  | .barcode (.record p) => [p.data.fieldText]
  | _ => []

theorem Stored.yields_get
    {α : Type}
    (stored : Stored α) :
    Outcome.Yields (fun p => stored = .record p)
      stored.get := by
  cases stored with
  | foreign v => exact Outcome.yields_error _
  | record p => exact Outcome.yields_ok rfl

------------------------------------------------------------
-- Fields of ZPL
------------------------------------------------------------

namespace Zpl

open Outcome (Yields yields_ok yields_bind yields_none
  yields_some)

/- The fonts of texts. -/
def fonts :
    List CodePoint :=
  ['0', 'A', 'B', 'D', 'E']

/- Whether a field shows the given texts and nothing else. -/
def Field.Shows
    (texts : List Text) :
    Field → Prop
  | .text _ font _ _ _ _ data => font ∈ fonts ∧ texts = [data]
  | .barcode _ _ _ _ _ data => texts = [data]
  | _ => texts = []

section Written

/- Whether a text has none of some characters. -/
def Lacks
    (chars : List CodePoint)
    (t : Text) :
    Prop :=
  ∀ c ∈ chars, c ∉ t

instance
    (chars : List CodePoint)
    (t : Text) :
    Decidable (Lacks chars t) :=
  inferInstanceAs (Decidable (∀ c ∈ chars, c ∉ t))

/- The letters and the mark of the parameters of commands. -/
def parameterMarks :
    Text :=
  "ABCDEFGHIJKLMNOPQRSTUVWXY,0123456789"

/- Whether no parameter of a command has one of some characters. -/
def AreForeign
    (chars : List CodePoint) :
    Prop :=
  Lacks chars parameterMarks ∧ ∀ c ∈ chars, c.isNumeral = false

instance
    (chars : List CodePoint) :
    Decidable (AreForeign chars) :=
  inferInstanceAs
    (Decidable
      (Lacks chars parameterMarks ∧
        ∀ c ∈ chars, c.isNumeral = false))

section Parameters

variable {chars : List CodePoint}

theorem lacks_append
    {s t : Text} :
    Lacks chars (s ++ t) ↔ Lacks chars s ∧ Lacks chars t := by
  simp only [Lacks, List.mem_append, not_or]
  exact forall₂_and

theorem AreForeign.lacks
    {t : Text}
    (hForeign : AreForeign chars)
    (hMarks : t ⊆ parameterMarks) :
    Lacks chars t :=
  fun c hMember hIn => hForeign.1 c hMember (hMarks hIn)

theorem AreForeign.lacks_numeral
    (hForeign : AreForeign chars)
    (n : Int) :
    Lacks chars (Text.ofString (toString n)) :=
  fun c hMember => Text.notMem_numeral (hForeign.2 c hMember)

theorem AreForeign.lacks_font
    {font : CodePoint}
    (hForeign : AreForeign chars)
    (hFont : font ∈ fonts) :
    Lacks chars [font] := by
  apply hForeign.lacks
  revert font
  decide

theorem AreForeign.lacks_letter
    (hForeign : AreForeign chars)
    (o : Orientation) :
    Lacks chars o.letter := by
  apply hForeign.lacks
  cases o with
  | _ => decide

theorem AreForeign.lacks_ink
    (hForeign : AreForeign chars)
    (ink : Ink) :
    Lacks chars ink.letter := by
  apply hForeign.lacks
  cases ink with
  | _ => decide

theorem AreForeign.lacks_zplCommand
    (hForeign : AreForeign chars)
    (s : Symbology) :
    Lacks chars s.zplCommand.tail := by
  apply hForeign.lacks
  cases s with
  | _ => decide

theorem AreForeign.lacks_barcodeParameters
    (hForeign : AreForeign chars)
    (s : Symbology)
    (readable : Bool) :
    Lacks chars (barcodeParameters s readable) := by
  apply hForeign.lacks
  unfold barcodeParameters
  split_ifs
  · decide
  · decide
  · decide

end Parameters

/- Two characters that are in none of the commands of fields. -/
def foreign :
    List CodePoint :=
  ['\n', 'Z']

/- Whether a text has only characters of commands in it. -/
def IsCommand
    (t : Text) :
    Prop :=
  ∀ c ∈ foreign, c ∉ t

theorem lacks_alignmentCommand
    (a : Option Alignment) :
    Lacks foreign (alignmentCommand a) := by
  cases a with
  | none => decide
  | some a =>
      cases a with
      | _ => decide

theorem lacks_zplCommand
    (s : Symbology) :
    Lacks foreign s.zplCommand := by
  cases s with
  | _ => decide

theorem lacks_origin
    (o : Origin) :
    Lacks foreign o.command := by
  have hForeign : AreForeign foreign := by decide
  simp only [Origin.command, lacks_append,
    hForeign.lacks_numeral]
  decide

/- A field is written around the text that it shows. -/
theorem Field.Shows.exists_lead
    {f : Field}
    {texts : List Text}
    (hShows : f.Shows texts) :
    ∃ lead, IsCommand lead ∧
      ((texts = [] ∧
          f.written = lead ++ Text.ofString "^FS") ∨
        ∃ data, texts = [data] ∧
          f.written =
            lead ++ Text.ofString "^FD" ++ data ++
              Text.ofString "^FS") := by
  have hForeign : AreForeign foreign := by decide
  change ∃ lead, Lacks foreign lead ∧ _
  cases f with
  | text origin font orientation height width alignment data =>
      rcases hShows with ⟨hFont, rfl⟩
      refine ⟨_, ?_, .inr ⟨data, rfl, rfl⟩⟩
      simp only [lacks_append, hForeign.lacks_numeral,
        lacks_origin, hForeign.lacks_font hFont,
        hForeign.lacks_letter, lacks_alignmentCommand, true_and,
        and_true]
      decide
  | rectangle origin width height thickness ink =>
      refine ⟨_, ?_, .inl ⟨hShows, rfl⟩⟩
      simp only [lacks_append, hForeign.lacks_numeral,
        lacks_origin, hForeign.lacks_ink, true_and, and_true]
      decide
  | circle origin radius thickness ink =>
      refine ⟨_, ?_, .inl ⟨hShows, rfl⟩⟩
      simp only [lacks_append, hForeign.lacks_numeral,
        lacks_origin, hForeign.lacks_ink, true_and, and_true]
      decide
  | barcode origin symbology orientation height readable data =>
      refine ⟨_, ?_, .inr ⟨data, hShows, rfl⟩⟩
      simp only [lacks_append, hForeign.lacks_numeral,
        lacks_origin, lacks_zplCommand, hForeign.lacks_letter,
        hForeign.lacks_barcodeParameters, true_and, and_true]
      decide
  | image origin total rowBytes =>
      refine ⟨_, ?_, .inl ⟨hShows, rfl⟩⟩
      simp only [lacks_append, hForeign.lacks_numeral,
        lacks_origin, true_and, and_true]
      decide

/- A field is one line if the text that it shows is. -/
theorem Field.Shows.isLine_iff
    {f : Field}
    {texts : List Text}
    (hShows : f.Shows texts) :
    f.written.IsLine ↔ ∀ t ∈ texts, t.IsLine := by
  rcases hShows.exists_lead with
    ⟨lead, hLead, ⟨rfl, hWritten⟩ | ⟨data, rfl, hWritten⟩⟩
  · have hLine : lead.IsLine := hLead _ (by decide)
    simp only [hWritten, Text.isLine_append, hLine,
      List.not_mem_nil, false_implies, implies_true, iff_true,
      true_and]
    decide
  · have hLine : lead.IsLine := hLead _ (by decide)
    have hEnds :
        (Text.ofString "^FD").IsLine ∧
          (Text.ofString "^FS").IsLine := by decide
    simp only [hWritten, Text.isLine_append, hLine, hEnds.1,
      hEnds.2, List.mem_singleton, forall_eq, true_and,
      and_true]

theorem suffix_written
    (f : Field) :
    Text.ofString "^FS" <:+ f.written := by
  cases f with
  | _ => exact List.suffix_append _ _

end Written

section Shown

variable {scale : Scale}
variable {place : Placement}

theorem fontFor_mem
    (size : Double) :
    fontFor size ∈ fonts := by
  unfold fontFor
  split_ifs
  · decide
  · decide
  · decide
  · decide
  · decide

theorem yields_textField
    [Machine]
    (stored : Stored TextProperties) :
    Yields (Field.Shows (Content.text stored).printed)
      (textField scale place stored) := by
  unfold textField
  refine stored.yields_get.bind fun p hp => ?_
  subst hp
  exact yields_bind fun _ => yields_bind fun _ =>
    yields_bind fun _ => yields_bind fun _ =>
      yields_bind fun _ => yields_ok ⟨fontFor_mem _, rfl⟩

theorem yields_barcodeField?
    [Machine]
    (stored : Stored BarcodeProperties) :
    Yields
      (fun f? => ∀ f ∈ f?,
        Field.Shows (Content.barcode stored).printed f)
      (barcodeField? scale place stored) := by
  unfold barcodeField?
  refine stored.yields_get.bind fun p hp => ?_
  subst hp
  split
  · exact yields_none
  · exact yields_bind fun _ => yields_bind fun _ =>
      yields_bind fun _ => yields_bind fun _ => yields_some rfl

theorem yields_lineField
    [Machine]
    (stored : Stored LineProperties) :
    Yields (Field.Shows []) (lineField scale place stored) :=
  yields_bind fun _ => yields_bind fun _ =>
    yields_bind fun _ => yields_bind fun _ =>
      yields_bind fun _ => yields_ok rfl

theorem yields_cornerBar?
    (border : Int)
    (ink : Ink)
    (radius : Double) :
    Yields (fun f? => ∀ f ∈ f?, Field.Shows [] f)
      (cornerBar? scale place border ink radius) := by
  unfold cornerBar?
  split_ifs with hRound
  · exact yields_bind fun _ => yields_bind fun _ =>
      yields_bind fun _ => yields_some rfl
  · exact yields_none

theorem yields_boxFields
    [Machine]
    (stored : Stored BoxProperties) :
    Yields (fun fs => ∀ f ∈ fs, Field.Shows [] f)
      (boxFields scale place stored) := by
  unfold boxFields
  refine yields_bind fun _ => yields_bind fun _ =>
    yields_bind fun _ => yields_bind fun _ =>
      yields_bind fun _ => yields_bind fun _ =>
        yields_bind fun _ => yields_bind fun _ => ?_
  refine (yields_cornerBar? _ _ _).bind fun bar hBar =>
    yields_ok ?_
  intro f hMember
  rcases List.mem_cons.mp hMember with rfl | hCorner
  · rfl
  · exact hBar f (Option.mem_toList.mp hCorner)

theorem yields_circleField
    [Machine]
    (stored : Stored CircleProperties) :
    Yields (Field.Shows []) (circleField scale place stored) :=
  yields_bind fun _ => yields_bind fun _ =>
    yields_bind fun _ => yields_bind fun _ =>
      yields_bind fun _ => yields_bind fun _ =>
        yields_bind fun _ => yields_ok rfl

theorem yields_imageField?
    (stored : Stored ImageProperties) :
    Yields (fun f? => ∀ f ∈ f?, Field.Shows [] f)
      (imageField? scale place stored) := by
  unfold imageField?
  refine yields_bind fun p => ?_
  split_ifs with hSource
  · exact yields_bind fun _ => yields_bind fun _ =>
      yields_bind fun _ => yields_bind fun _ => yields_some rfl
  · exact yields_none

/- The fields of an element show what its content prints. -/
theorem yields_fields
    [Machine]
    (options : ZplOptions)
    (e : Element) :
    Yields (fun fs => ∀ f ∈ fs, f.Shows e.content.printed)
      (fields options e) := by
  rcases e with ⟨place, content⟩
  unfold fields
  cases content with
  | text stored => exact (yields_textField stored).singleton
  | line stored => exact (yields_lineField stored).singleton
  | box stored => exact yields_boxFields stored
  | circle stored => exact (yields_circleField stored).singleton
  | barcode stored =>
      exact (yields_barcodeField? stored).toList
  | image stored => exact (yields_imageField? stored).toList
  | unknown elementType properties => exact yields_ok (by simp)
  | bare => exact yields_ok (by simp)

end Shown

end Zpl

------------------------------------------------------------
-- Records of EPL
------------------------------------------------------------

namespace Epl

open Outcome (Yields yields_ok yields_bind yields_none
  yields_some)

/- Whether a record shows the given texts and nothing else. -/
def Record.Shows
    (texts : List Text) :
    Record → Prop
  | .text _ _ _ _ data => texts = [data]
  | .barcode _ _ _ _ _ _ data => texts = [data]
  | _ => texts = []

section Written

/- Escaping leaves newlines as they are, and adds none. -/
theorem isLine_escape
    {data : Text} :
    (escape data).IsLine ↔ data.IsLine := by
  induction data with
  | nil => exact Iff.rfl
  | cons c cs ih =>
      unfold escape
      split_ifs with hMark
      · simp only [Text.isLine_cons, ih]
        exact and_iff_right (by decide)
      · simp only [Text.isLine_cons, ih]

theorem isLine_eplCode
    (s : Symbology) :
    s.eplCode.IsLine := by
  cases s with
  | _ => decide

theorem isLine_readableLetter
    (readable : Bool) :
    (readableLetter readable).IsLine := by
  cases readable with
  | _ => decide

/- Whether a text starts with one of the letters of records. -/
def StartsRecord
    (t : Text) :
    Prop :=
  ∃ c ∈ Text.ofString "ALXBG", t.head? = some c

theorem startsRecord_code
    (r : Record)
    (rest : Text) :
    StartsRecord (r.code ++ rest) := by
  cases r with
  | text => exact ⟨'A', by decide, rfl⟩
  | line => exact ⟨'L', by decide, rfl⟩
  | box => exact ⟨'X', by decide, rfl⟩
  | barcode => exact ⟨'B', by decide, rfl⟩
  | image => exact ⟨'G', by decide, rfl⟩

/- A record starts with none but the letters of records. -/
theorem StartsRecord.head?_ne
    {t : Text}
    {c : CodePoint}
    (hStarts : StartsRecord t)
    (hOther : c ∉ Text.ofString "ALXBG") :
    t.head? ≠ some c := by
  rcases hStarts with ⟨d, hLetter, hHead⟩
  rw [hHead]
  rintro ⟨⟩
  exact hOther hLetter

section Parameters

variable {r : Record}

theorem isLine_code
    (r : Record) :
    r.code.IsLine := by
  cases r with
  | _ =>
      simp only [Record.code]
      decide

theorem isLine_of_parameters
    (hParameters : ∀ t ∈ r.parameters, t.IsLine) :
    r.written.IsLine :=
  Text.isLine_append.mpr
    ⟨isLine_code r, Text.isLine_intercalate (by decide) hParameters⟩

/- What stands before the literal in a record. -/
theorem exists_lead_of_literal
    {front : List Text}
    {data : Text}
    (hParameters : r.parameters = front ++ [literal data])
    (hFront : ∀ t ∈ front, t.IsLine) :
    ∃ lead : Text, lead.IsLine ∧ StartsRecord lead ∧
      r.written = lead ++ escape data ++ [Text.doubleQuote] := by
  have hComma : (Text.ofString ",").IsLine := by decide
  rcases Text.exists_lead_of_intercalate hComma hFront with
    ⟨lead, hLead, hLast⟩
  refine ⟨r.code ++ lead ++ [Text.doubleQuote], ?_, ?_, ?_⟩
  · simp only [Text.isLine_append]
    exact ⟨⟨isLine_code r, hLead⟩, by decide⟩
  · rw [List.append_assoc]
    exact startsRecord_code r _
  · rw [Record.written, hParameters, hLast, literal]
    simp only [List.append_assoc, List.cons_append,
      List.nil_append]

end Parameters

/-
  A record starts with its letters and is written around the
  quoted text that it shows.
-/
theorem Record.Shows.exists_lead
    {r : Record}
    {texts : List Text}
    (hShows : r.Shows texts) :
    ∃ lead : Text, lead.IsLine ∧ StartsRecord lead ∧
      ((texts = [] ∧ r.written = lead) ∨
        ∃ data, texts = [data] ∧
          r.written =
            lead ++ escape data ++ [Text.doubleQuote]) := by
  have hStarts : StartsRecord r.written :=
    startsRecord_code r _
  cases r with
  | text x y rotation font data =>
      have hFront :
          ∀ t ∈ ([toString x, toString y, toString rotation,
            toString font, "1", "1", "N"] : List Text),
            t.IsLine := by
        simp only [List.forall_mem_cons, Text.isLine_numeral,
          Text.isLine_natNumeral, true_and]
        decide
      rcases exists_lead_of_literal
          (r := .text x y rotation font data) rfl hFront with
        ⟨lead, hLead, hCode, hWritten⟩
      exact ⟨lead, hLead, hCode, .inr ⟨data, hShows, hWritten⟩⟩
  | barcode x y rotation symbology height readable data =>
      have hFront :
          ∀ t ∈ ([toString x, toString y, toString rotation,
            symbology.eplCode, "2", "6", toString height,
            readableLetter readable] : List Text),
            t.IsLine := by
        simp only [List.forall_mem_cons, Text.isLine_numeral,
          isLine_eplCode, isLine_readableLetter, true_and]
        decide
      rcases exists_lead_of_literal
          (r := .barcode x y rotation symbology height readable
            data) rfl hFront with
        ⟨lead, hLead, hCode, hWritten⟩
      exact ⟨lead, hLead, hCode, .inr ⟨data, hShows, hWritten⟩⟩
  | line x y width thickness =>
      refine ⟨_, isLine_of_parameters ?_, hStarts,
        .inl ⟨hShows, rfl⟩⟩
      simp only [Record.parameters, List.forall_mem_cons,
        Text.isLine_numeral, true_and]
      decide
  | box x y border right bottom =>
      refine ⟨_, isLine_of_parameters ?_, hStarts,
        .inl ⟨hShows, rfl⟩⟩
      simp only [Record.parameters, List.forall_mem_cons,
        Text.isLine_numeral, true_and]
      decide
  | image x y widthBytes height =>
      refine ⟨_, isLine_of_parameters ?_, hStarts,
        .inl ⟨hShows, rfl⟩⟩
      simp only [Record.parameters, List.forall_mem_cons,
        Text.isLine_numeral, true_and]
      decide

/- A record is one line if the text that it shows is. -/
theorem Record.Shows.isLine_iff
    {r : Record}
    {texts : List Text}
    (hShows : r.Shows texts) :
    r.written.IsLine ↔ ∀ t ∈ texts, t.IsLine := by
  rcases hShows.exists_lead with
    ⟨lead, hLead, _, ⟨rfl, hWritten⟩ | ⟨data, rfl, hWritten⟩⟩
  · simp only [hWritten, hLead, List.not_mem_nil,
      false_implies, implies_true]
  · have hQuote : Text.IsLine [Text.doubleQuote] := by decide
    simp only [hWritten, Text.isLine_append, hLead,
      isLine_escape, hQuote, List.mem_singleton, forall_eq,
      true_and, and_true]

end Written

section Shown

variable {scale : Scale}
variable {place : Placement}

theorem yields_textRecord
    [Machine]
    (stored : Stored TextProperties) :
    Yields (Record.Shows (Content.text stored).printed)
      (textRecord scale place stored) := by
  unfold textRecord
  refine stored.yields_get.bind fun p hp => ?_
  subst hp
  exact yields_bind fun _ => yields_bind fun _ =>
    yields_bind fun _ => yields_bind fun _ =>
      yields_bind fun _ => yields_ok rfl

theorem yields_barcodeRecord?
    [Machine]
    (stored : Stored BarcodeProperties) :
    Yields
      (fun r? => ∀ r ∈ r?,
        Record.Shows (Content.barcode stored).printed r)
      (barcodeRecord? scale place stored) := by
  unfold barcodeRecord?
  refine stored.yields_get.bind fun p hp => ?_
  subst hp
  split
  · exact yields_none
  · exact yields_bind fun _ => yields_bind fun _ =>
      yields_bind fun _ => yields_bind fun _ =>
        yields_bind fun _ => yields_some rfl

theorem yields_lineRecord
    (stored : Stored LineProperties) :
    Yields (Record.Shows []) (lineRecord scale place stored) :=
  yields_bind fun _ => yields_bind fun _ =>
    yields_bind fun _ => yields_bind fun _ =>
      yields_bind fun _ => yields_ok rfl

theorem yields_boxRecord
    (stored : Stored BoxProperties) :
    Yields (Record.Shows []) (boxRecord scale place stored) :=
  yields_bind fun _ => yields_bind fun _ =>
    yields_bind fun _ => yields_bind fun _ =>
      yields_bind fun _ => yields_bind fun _ =>
        yields_ok rfl

theorem yields_imageRecord?
    (stored : Stored ImageProperties) :
    Yields (fun r? => ∀ r ∈ r?, Record.Shows [] r)
      (imageRecord? scale place stored) := by
  unfold imageRecord?
  refine yields_bind fun p => ?_
  split_ifs with hSource
  · exact yields_bind fun _ => yields_bind fun _ =>
      yields_bind fun _ => yields_bind fun _ =>
        yields_bind fun _ => yields_some rfl
  · exact yields_none

/- The records of an element show what its content prints. -/
theorem yields_records
    [Machine]
    (options : EplOptions)
    (e : Element) :
    Yields (fun rs => ∀ r ∈ rs, r.Shows e.content.printed)
      (records options e) := by
  rcases e with ⟨place, content⟩
  unfold records
  cases content with
  | text stored => exact (yields_textRecord stored).singleton
  | line stored => exact (yields_lineRecord stored).singleton
  | box stored => exact (yields_boxRecord stored).singleton
  | barcode stored =>
      exact (yields_barcodeRecord? stored).toList
  | image stored => exact (yields_imageRecord? stored).toList
  | circle stored => exact yields_ok (by simp)
  | unknown elementType properties => exact yields_ok (by simp)
  | bare => exact yields_ok (by simp)

end Shown

end Epl

------------------------------------------------------------
-- Records of DPL
------------------------------------------------------------

namespace Dpl

open Outcome (Yields yields_ok yields_bind yields_none
  yields_some)

/- Whether a record shows the given texts and nothing else. -/
def Record.Shows
    (texts : List Text) :
    Record → Prop
  | .text _ _ data => texts = [data]
  | .barcode _ _ _ data => texts = [data]

theorem isLine_position
    (n : Nat) :
    (position n).IsLine := by
  have hZeros :
      ∀ k, (Text.run '0' k).IsLine := by
    intro k hMember
    exact absurd (List.eq_of_mem_replicate hMember) (by decide)
  exact Text.isLine_append.mpr ⟨hZeros _, Text.isLine_digits n⟩

/- A record ends in the text that it shows. -/
theorem Record.Shows.exists_lead
    {r : Record}
    {texts : List Text}
    (hShows : r.Shows texts) :
    ∃ lead data, Text.IsLine lead ∧
      lead.head? = some (.char '1') ∧ texts = [data] ∧
      r.written = lead ++ data := by
  cases r with
  | text x y data =>
      refine ⟨_, data, ?_, rfl, hShows, rfl⟩
      simp only [Text.isLine_append, isLine_position, and_true]
      decide
  | barcode x y height data =>
      refine ⟨_, data, ?_, rfl, hShows, rfl⟩
      simp only [Text.isLine_append, isLine_position, and_true]
      decide

/- A record is one line if the text that it shows is. -/
theorem Record.Shows.isLine_iff
    {r : Record}
    {texts : List Text}
    (hShows : r.Shows texts) :
    r.written.IsLine ↔ ∀ t ∈ texts, t.IsLine := by
  rcases hShows.exists_lead with
    ⟨lead, data, hLead, _, rfl, hWritten⟩
  simp only [hWritten, Text.isLine_append, hLead,
    List.mem_singleton, forall_eq, true_and]

theorem head?_written
    (r : Record) :
    r.written.head? = some (.char '1') := by
  cases r with
  | _ => rfl

section Shown

variable [Machine]
variable {scale : Scale}
variable {place : Placement}

theorem yields_textRecord
    (stored : Stored TextProperties) :
    Yields (Record.Shows (Content.text stored).printed)
      (textRecord scale place stored) := by
  unfold textRecord
  refine yields_bind fun _ => yields_bind fun _ =>
    stored.yields_get.bind fun p hp => ?_
  subst hp
  exact yields_bind fun _ => yields_ok rfl

theorem yields_barcodeRecord?
    (stored : Stored BarcodeProperties) :
    Yields
      (fun r? => ∀ r ∈ r?,
        Record.Shows (Content.barcode stored).printed r)
      (barcodeRecord? scale place stored) := by
  unfold barcodeRecord?
  refine stored.yields_get.bind fun p hp => ?_
  subst hp
  split
  · exact yields_none
  · exact yields_bind fun _ => yields_bind fun _ =>
      yields_bind fun _ => yields_bind fun _ => yields_some rfl

/- The records of an element show what its content prints. -/
theorem yields_records
    (options : DplOptions)
    (e : Element) :
    Yields (fun rs => ∀ r ∈ rs, r.Shows e.content.printed)
      (records options e) := by
  rcases e with ⟨place, content⟩
  unfold records
  cases content with
  | text stored => exact (yields_textRecord stored).singleton
  | barcode stored =>
      exact (yields_barcodeRecord? stored).toList
  | _ => exact yields_ok (by simp)

end Shown

end Dpl

end LabelPress

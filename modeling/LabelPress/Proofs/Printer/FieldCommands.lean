import LabelPress.Proofs.Printer.Lines
import LabelPress.Proofs.Text.ReadNumbers
import LabelPress.Proofs.Text.Words

/-
  The commands of ZPL fields.

  A field is a row of commands, each with a caret in front.  If no
  caret is in the text that it shows, the first command is the
  only one that sets an origin and the last the only one that ends
  a field.  All that stands in front of the text of a text field
  can be read back from there.

  Main declarations:
    * `Zpl.Field.parts`, `Zpl.Field.written_eq_marked`
    * `Zpl.frameWords`, `Zpl.Field.Shows.wordsIn_frameWords`
    * `Zpl.TextLead`, `Zpl.TextLead.read?_written`
    * `Zpl.TextLead.split_unique`
-/

namespace LabelPress

namespace Zpl

------------------------------------------------------------
-- Commands
------------------------------------------------------------

/- The origin of a field. -/
def Field.origin :
    Field → Origin
  | .text origin _ _ _ _ _ _ => origin
  | .rectangle origin _ _ _ _ => origin
  | .circle origin _ _ _ => origin
  | .barcode origin _ _ _ _ _ => origin
  | .image origin _ _ => origin

/- The command of an origin. -/
def Origin.part
    (o : Origin) :
    Text :=
  "FO" ++ toString o.x ++ "," ++ toString o.y

/- The command for the font of a text. -/
def fontPart
    (font : CodePoint)
    (orientation : Orientation)
    (height : Int)
    (width : Int) :
    Text :=
  "A" ++ [font] ++ orientation.letter ++ "," ++ toString height ++
    "," ++ toString width

/- The command for aligned text, if there is one. -/
def alignmentParts :
    Option Alignment → List Text
  | none => []
  | some a => ["FB200,1,0," ++ a.letter ++ ",0"]

/- The command for the text that a field shows. -/
def dataPart
    (data : Text) :
    Text :=
  "FD" ++ data

/- The command that ends a field. -/
def endPart :
    Text :=
  "FS"

/- The commands of a field between its origin and its end. -/
def Field.innerParts :
    Field → List Text
  | .text _ font orientation height width alignment data =>
      fontPart font orientation height width ::
        (alignmentParts alignment ++ [dataPart data])
  | .rectangle _ width height thickness ink =>
      ["GB" ++ toString width ++ "," ++ toString height ++ "," ++
        toString thickness ++ "," ++ ink.letter]
  | .circle _ radius thickness ink =>
      ["GC" ++ toString radius ++ "," ++ toString thickness ++
        "," ++ ink.letter]
  | .barcode _ symbology orientation height readable data =>
      [symbology.zplCommand.tail ++ orientation.letter ++ "," ++
        toString height ++ barcodeParameters symbology readable,
        dataPart data]
  | .image _ total rowBytes =>
      ["GFA," ++ toString total ++ "," ++ toString total ++ "," ++
        toString rowBytes ++ "," ++ imageData]

/- The commands of a field. -/
def Field.parts
    (f : Field) :
    List Text :=
  f.origin.part :: (f.innerParts ++ [endPart])

theorem alignmentCommand_eq_marked
    (a : Option Alignment) :
    alignmentCommand a = Text.marked '^' (alignmentParts a) := by
  cases a with
  | none => rfl
  | some a =>
      cases a with
      | _ => rfl

theorem zplCommand_eq
    (s : Symbology) :
    s.zplCommand = .char '^' :: s.zplCommand.tail := by
  cases s with
  | _ => rfl

/- A field is its commands with a caret in front of each. -/
theorem Field.written_eq_marked
    (f : Field) :
    f.written = Text.marked '^' f.parts := by
  cases f with
  | text origin font orientation height width alignment data =>
      rw [Field.written, alignmentCommand_eq_marked]
      simp [parts, innerParts, Text.marked, Origin.command,
        Origin.part, Field.origin, fontPart, dataPart, endPart,
        Text.ofString]
  | rectangle origin width height thickness ink =>
      simp [Field.written, parts, innerParts, Text.marked,
        Origin.command, Origin.part, Field.origin, endPart,
        Text.ofString]
  | circle origin radius thickness ink =>
      simp [Field.written, parts, innerParts, Text.marked,
        Origin.command, Origin.part, Field.origin, endPart,
        Text.ofString]
  | barcode origin symbology orientation height readable data =>
      rw [Field.written, zplCommand_eq]
      simp [parts, innerParts, Text.marked, Origin.command,
        Origin.part, Field.origin, dataPart, endPart,
        Text.ofString]
  | image origin total rowBytes =>
      simp [Field.written, parts, innerParts, Text.marked,
        Origin.command, Origin.part, Field.origin, endPart,
        Text.ofString]

------------------------------------------------------------
-- Carets
------------------------------------------------------------

/- Whether a text has no caret in it. -/
def IsCaretFree
    (t : Text) :
    Prop :=
  Lacks ['^'] t

instance
    (t : Text) :
    Decidable (IsCaretFree t) :=
  inferInstanceAs (Decidable (Lacks ['^'] t))

theorem isCaretFree_iff
    {t : Text} :
    IsCaretFree t ↔ CodePoint.char '^' ∉ t :=
  List.forall_mem_singleton

theorem areForeign_caret :
    AreForeign ['^'] := by
  decide

theorem isCaretFree_origin
    (o : Origin) :
    IsCaretFree o.part := by
  change Lacks ['^'] o.part
  simp only [Origin.part, lacks_append,
    areForeign_caret.lacks_numeral]
  decide

theorem isCaretFree_dataPart
    {data : Text} :
    IsCaretFree (dataPart data) ↔ IsCaretFree data := by
  change Lacks ['^'] (dataPart data) ↔ _
  rw [dataPart, lacks_append]
  exact and_iff_right (by decide)

theorem isCaretFree_fontPart
    {font : CodePoint}
    (hFont : font ∈ fonts)
    (orientation : Orientation)
    (height width : Int) :
    IsCaretFree (fontPart font orientation height width) := by
  change Lacks ['^'] _
  simp only [fontPart, lacks_append,
    areForeign_caret.lacks_numeral,
    areForeign_caret.lacks_letter,
    areForeign_caret.lacks_font hFont, and_true]
  decide

theorem isCaretFree_alignmentParts
    (a : Option Alignment) :
    ∀ part ∈ alignmentParts a, IsCaretFree part := by
  cases a with
  | none => exact List.forall_mem_nil _
  | some a =>
      cases a with
      | _ => decide

/- The commands within a field have no carets but in its text. -/
theorem Field.Shows.isCaretFree_innerParts
    {f : Field}
    {texts : List Text}
    (hShows : f.Shows texts)
    (hFree : ∀ t ∈ texts, IsCaretFree t) :
    ∀ part ∈ f.innerParts, IsCaretFree part := by
  have hCaret := areForeign_caret
  cases f with
  | text origin font orientation height width alignment data =>
      rcases hShows with ⟨hFont, rfl⟩
      have hData := hFree data List.mem_cons_self
      simp only [Field.innerParts, List.forall_mem_cons,
        List.forall_mem_append, isCaretFree_fontPart hFont,
        isCaretFree_dataPart, hData, true_and]
      exact ⟨isCaretFree_alignmentParts alignment,
        List.forall_mem_nil _⟩
  | rectangle origin width height thickness ink =>
      refine List.forall_mem_singleton.mpr ?_
      change Lacks ['^'] _
      simp only [lacks_append, hCaret.lacks_numeral,
        hCaret.lacks_ink, and_true]
      decide
  | circle origin radius thickness ink =>
      refine List.forall_mem_singleton.mpr ?_
      change Lacks ['^'] _
      simp only [lacks_append, hCaret.lacks_numeral,
        hCaret.lacks_ink, and_true]
      decide
  | barcode origin symbology orientation height readable data =>
      obtain rfl : texts = [data] := hShows
      have hData := hFree data List.mem_cons_self
      simp only [Field.innerParts, List.forall_mem_cons,
        isCaretFree_dataPart, hData, true_and]
      refine ⟨?_, List.forall_mem_nil _⟩
      change Lacks ['^'] _
      simp only [lacks_append, hCaret.lacks_numeral,
        hCaret.lacks_letter, hCaret.lacks_zplCommand,
        hCaret.lacks_barcodeParameters, and_true, true_and]
      decide
  | image origin total rowBytes =>
      refine List.forall_mem_singleton.mpr ?_
      change Lacks ['^'] _
      simp only [lacks_append, hCaret.lacks_numeral, and_true]
      decide

/- The commands of a field are free of carets if its text is. -/
theorem Field.Shows.notMem_parts
    {f : Field}
    {texts : List Text}
    (hShows : f.Shows texts)
    (hFree : ∀ t ∈ texts, IsCaretFree t) :
    ∀ part ∈ f.parts, CodePoint.char '^' ∉ part := by
  have hParts : ∀ part ∈ f.parts, IsCaretFree part := by
    rw [Field.parts, List.forall_mem_cons,
      List.forall_mem_append, List.forall_mem_singleton]
    exact ⟨isCaretFree_origin f.origin,
      hShows.isCaretFree_innerParts hFree, by decide⟩
  exact fun part hMember =>
    isCaretFree_iff.mp (hParts part hMember)

------------------------------------------------------------
-- Frames of Fields
------------------------------------------------------------

/- The words that open and end a label or a field. -/
def frameWords :
    List Text :=
  ["^XA", "^FO", "^FS", "^XZ"]

/- The words of a field. -/
def fieldWords :
    List Text :=
  ["^FO", "^FS"]

/- The words around the text that a field shows. -/
def dataWords :
    List Text :=
  ["^FD", "^FS"]

/- No command within a field frames one. -/
theorem Field.wordsAt_innerParts
    (f : Field) :
    ∀ part ∈ f.innerParts,
      Text.wordsAt frameWords (.char '^' :: part) = [] := by
  cases f with
  | text origin font orientation height width alignment data =>
      cases alignment with
      | none =>
          simp only [innerParts, alignmentParts,
            List.forall_mem_cons, List.nil_append]
          exact ⟨rfl, rfl, List.forall_mem_nil _⟩
      | some a =>
          simp only [innerParts, alignmentParts,
            List.forall_mem_cons, List.cons_append,
            List.nil_append]
          exact ⟨rfl, rfl, rfl, List.forall_mem_nil _⟩
  | rectangle origin width height thickness ink =>
      exact List.forall_mem_singleton.mpr rfl
  | circle origin radius thickness ink =>
      exact List.forall_mem_singleton.mpr rfl
  | barcode origin symbology orientation height readable data =>
      simp only [innerParts, List.forall_mem_cons]
      refine ⟨?_, rfl, List.forall_mem_nil _⟩
      cases symbology with
      | _ => rfl
  | image origin total rowBytes =>
      exact List.forall_mem_singleton.mpr rfl

/- A field sets one origin and ends once. -/
theorem Field.Shows.wordsIn_frameWords
    {f : Field}
    {texts : List Text}
    (hShows : f.Shows texts)
    (hFree : ∀ t ∈ texts, IsCaretFree t) :
    Text.wordsIn frameWords f.written = fieldWords := by
  have hInner :
      (f.innerParts.flatMap fun part =>
          Text.wordsAt frameWords (.char '^' :: part)) = [] :=
    List.flatMap_eq_nil_iff.mpr f.wordsAt_innerParts
  rw [f.written_eq_marked,
    Text.wordsIn_marked (by decide)
      (hShows.notMem_parts hFree),
    Field.parts, List.flatMap_cons, List.flatMap_append, hInner]
  rfl

------------------------------------------------------------
-- Leads of Texts
------------------------------------------------------------

/- What stands in front of the text of a text field. -/
structure TextLead where
  origin : Origin
  font : CodePoint
  orientation : Orientation
  height : Int
  width : Int
  alignment : Option Alignment
  deriving DecidableEq

namespace TextLead

/- The field of a lead and a text. -/
def field
    (lead : TextLead)
    (data : Text) :
    Field :=
  .text lead.origin lead.font lead.orientation lead.height
    lead.width lead.alignment data

/- The commands of a lead. -/
def parts
    (lead : TextLead) :
    List Text :=
  lead.origin.part ::
    fontPart lead.font lead.orientation lead.height lead.width ::
      alignmentParts lead.alignment

/- A lead as it is written. -/
def written
    (lead : TextLead) :
    Text :=
  Text.marked '^' lead.parts

theorem written_field
    (lead : TextLead)
    (data : Text) :
    (lead.field data).written =
      lead.written ++ "^FD" ++ data ++ "^FS" := by
  rw [Field.written_eq_marked]
  simp [field, Field.parts, Field.origin, Field.innerParts,
    written, parts, Text.marked, dataPart, endPart,
    Text.ofString]

theorem notMem_parts
    {lead : TextLead}
    (hFont : lead.font ∈ fonts) :
    ∀ part ∈ lead.parts, CodePoint.char '^' ∉ part := by
  simp only [← isCaretFree_iff, parts, List.forall_mem_cons,
    isCaretFree_origin, isCaretFree_fontPart hFont, true_and]
  exact isCaretFree_alignmentParts lead.alignment

end TextLead

/- The orientation of a letter. -/
def Orientation.ofLetter? :
    CodePoint → Option Orientation
  | .char 'N' => some .normal
  | .char 'R' => some .rotated
  | .char 'I' => some .inverted
  | .char 'B' => some .bottomUp
  | _ => none

/- The origin of a command. -/
def readOrigin? :
    Text → Option Origin
  | .char 'F' :: .char 'O' :: t => do
      let (x, y) ← Text.cut? ',' t
      let x ← Text.ofNumeral? x
      let y ← Text.ofNumeral? y
      return ⟨x, y⟩
  | _ => none

/- The font, orientation, height and width of a command. -/
def readFont? :
    Text → Option (CodePoint × Orientation × Int × Int)
  | .char 'A' :: font :: letter :: .char ',' :: t => do
      let orientation ← Orientation.ofLetter? letter
      let (height, width) ← Text.cut? ',' t
      let height ← Text.ofNumeral? height
      let width ← Text.ofNumeral? width
      return (font, orientation, height, width)
  | _ => none

/- The alignment of the commands behind the font. -/
def readAlignment? :
    List Text → Option (Option Alignment)
  | [] => some none
  | [t] =>
      if t = "FB200,1,0,C,0" then some (some .center)
      else if t = "FB200,1,0,R,0" then some (some .right)
      else none
  | _ => none

/- Read a lead at its carets. -/
def TextLead.read?
    (t : Text) :
    Option TextLead :=
  match Text.partsBetween '^' t with
  | [] :: origin :: font :: rest => do
      let origin ← readOrigin? origin
      let (font, orientation, height, width) ← readFont? font
      let alignment ← readAlignment? rest
      return ⟨origin, font, orientation, height, width, alignment⟩
  | _ => none

theorem readOrigin?_part
    (o : Origin) :
    readOrigin? o.part = some o := by
  have hComma : CodePoint.isNumeral ',' = false := rfl
  have hPart :
      o.part =
        .char 'F' :: .char 'O' ::
          (Text.ofString (toString o.x) ++ .char ',' ::
            Text.ofString (toString o.y)) := by
    simp [Origin.part, Text.ofString]
  rw [hPart, readOrigin?,
    Text.cut?_append_cons (Text.notMem_numeral hComma)]
  simp only [Option.bind_eq_bind, Option.bind_some,
    Text.ofNumeral?_numeral]
  rfl

theorem readFont?_fontPart
    (font : CodePoint)
    (orientation : Orientation)
    (height width : Int) :
    readFont? (fontPart font orientation height width) =
      some (font, orientation, height, width) := by
  have hComma : CodePoint.isNumeral ',' = false := rfl
  have hPart :
      ∃ letter,
        Orientation.ofLetter? letter = some orientation ∧
          fontPart font orientation height width =
            .char 'A' :: font :: letter :: .char ',' ::
              (Text.ofString (toString height) ++ .char ',' ::
                Text.ofString (toString width)) := by
    cases orientation with
    | normal =>
        refine ⟨'N', rfl, ?_⟩
        simp [fontPart, Orientation.letter, Text.ofString]
    | rotated =>
        refine ⟨'R', rfl, ?_⟩
        simp [fontPart, Orientation.letter, Text.ofString]
    | inverted =>
        refine ⟨'I', rfl, ?_⟩
        simp [fontPart, Orientation.letter, Text.ofString]
    | bottomUp =>
        refine ⟨'B', rfl, ?_⟩
        simp [fontPart, Orientation.letter, Text.ofString]
  rcases hPart with ⟨letter, hLetter, hPart⟩
  rw [hPart, readFont?, hLetter,
    Text.cut?_append_cons (Text.notMem_numeral hComma)]
  simp only [Option.bind_eq_bind, Option.bind_some,
    Text.ofNumeral?_numeral]
  rfl

theorem readAlignment?_alignmentParts
    (a : Option Alignment) :
    readAlignment? (alignmentParts a) = some a := by
  cases a with
  | none => rfl
  | some a =>
      cases a with
      | _ => decide

namespace TextLead

variable {lead : TextLead}

theorem read?_written
    (hFont : lead.font ∈ fonts) :
    read? lead.written = some lead := by
  rw [read?, written,
    Text.partsBetween_marked (notMem_parts hFont), parts]
  simp only [readOrigin?_part, readFont?_fontPart,
    readAlignment?_alignmentParts, Option.bind_eq_bind,
    Option.bind_some]
  rfl

/- The text of a field is framed once. -/
theorem wordsIn_dataWords
    {data : Text}
    (hFont : lead.font ∈ fonts)
    (hFree : IsCaretFree data) :
    Text.wordsIn dataWords (lead.field data).written =
      [Text.ofString "^FD", Text.ofString "^FS"] := by
  have hShows : (lead.field data).Shows [data] := ⟨hFont, rfl⟩
  have hNone :
      ∀ part ∈ lead.parts,
        Text.wordsAt dataWords (.char '^' :: part) = [] := by
    simp only [parts, List.forall_mem_cons]
    refine ⟨rfl, rfl, ?_⟩
    cases lead.alignment with
    | none => exact List.forall_mem_nil _
    | some a => exact List.forall_mem_singleton.mpr rfl
  have hParts :
      (lead.field data).parts =
        lead.parts ++ [dataPart data, endPart] := by
    simp [field, Field.parts, Field.origin, Field.innerParts,
      parts]
  rw [Field.written_eq_marked,
    Text.wordsIn_marked (by decide)
      (hShows.notMem_parts
        (List.forall_mem_singleton.mpr hFree)),
    hParts, List.flatMap_append,
    List.flatMap_eq_nil_iff.mpr hNone]
  rfl

/- A text field falls apart at the words in one way only. -/
theorem split_unique
    {data before middle after : Text}
    (hFont : lead.font ∈ fonts)
    (hFree : IsCaretFree data)
    (hText :
      (lead.field data).written =
        before ++ "^FD" ++ middle ++ "^FS" ++ after) :
    before = lead.written ∧ middle = data ∧ after = [] := by
  have hOnce :
      ∀ w ∈ dataWords,
        (Text.wordsIn dataWords
          (lead.field data).written).count w ≤ 1 := by
    rw [wordsIn_dataWords hFont hFree]
    decide
  have hBegins : Text.ofString "^FD" ∈ dataWords := by decide
  have hEnds : Text.ofString "^FS" ∈ dataWords := by decide
  have hWritten := lead.written_field data
  have hEnd :
      before ++ "^FD" ++ middle =
          lead.written ++ "^FD" ++ data ∧
        after = [] :=
    Text.eq_of_word_once hEnds (by decide) (hOnce _ hEnds) hText
      (hWritten.trans (List.append_nil _).symm)
  rcases hEnd with ⟨_, rfl⟩
  rw [List.append_nil, List.append_assoc] at hText
  have hStart :
      before = lead.written ∧
        middle ++ Text.ofString "^FS" =
          data ++ Text.ofString "^FS" :=
    Text.eq_of_word_once hBegins (by decide) (hOnce _ hBegins)
      hText (hWritten.trans (List.append_assoc _ _ _))
  exact ⟨hStart.1, List.append_cancel_right hStart.2, rfl⟩

end TextLead

end Zpl

end LabelPress

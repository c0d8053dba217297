import LabelPress.Machine.Usual
import LabelPress.Proofs.Printer.Lines
import LabelPress.Proofs.Stream.Emission
import LabelPress.Proofs.Text.ReadNumbers

/-
  Records of EPL read at their commas.

  A literal is read up to the first quote that no backslash takes
  along, which is its closing one.  No parameter in front of it
  has a comma, so that the parameters of a text or a barcode are
  cut off one by one until the literal is left.

  Main declarations:
    * `Epl.EscapesNext`, `Epl.escape_eq_prefixed`
    * `Epl.readLiteral?`, `Epl.readLiteral?_literal`
    * `Epl.Reading`, `Epl.Reading.read?`
    * `Epl.Reading.Describes`
    * `Epl.encode_read_back`
-/

namespace LabelPress

namespace Epl

open Outcome (Yields yields_ok yields_bind yields_none
  yields_some)

------------------------------------------------------------
-- Escapes
------------------------------------------------------------

/- Set a backslash before each place of a mark. -/
def prefixed
    (mark : CodePoint)
    (t : Text) :
    Text :=
  t.flatMap fun c =>
    if c = mark then [Text.backslash, c] else [c]

/-
  Escaping is to set backslashes before the backslashes and then
  before the quotes.
-/
theorem escape_eq_prefixed
    (t : Text) :
    escape t =
      prefixed Text.doubleQuote (prefixed Text.backslash t) := by
  induction t with
  | nil => rfl
  | cons c t ih =>
      have hSplit :
          prefixed Text.doubleQuote
              (prefixed Text.backslash (c :: t)) =
            prefixed Text.doubleQuote
                (prefixed Text.backslash [c]) ++
              prefixed Text.doubleQuote
                (prefixed Text.backslash t) := by
        simp only [prefixed, List.flatMap_cons,
          List.flatMap_nil, List.append_nil,
          List.flatMap_append]
      rw [hSplit, ← ih, escape]
      by_cases hSlash : c = Text.backslash
      · subst hSlash
        rw [if_pos (.inl rfl)]
        rfl
      · by_cases hQuote : c = Text.doubleQuote
        · subst hQuote
          rw [if_pos (.inr rfl)]
          rfl
        · rw [if_neg (not_or.mpr ⟨hSlash, hQuote⟩)]
          simp [prefixed, hSlash, hQuote]

/-
  Whether what follows a text is escaped: an odd number of
  backslashes stands at its end.
-/
def EscapesNext
    (t : Text) :
    Prop :=
  Odd (t.reverse.takeWhile (· == Text.backslash)).length

theorem not_escapesNext_nil :
    ¬ EscapesNext [] := by
  rw [EscapesNext]
  decide

theorem escapesNext_concat
    (t : Text)
    (c : CodePoint) :
    EscapesNext (t ++ [c]) ↔
      c = Text.backslash ∧ ¬ EscapesNext t := by
  rw [EscapesNext, EscapesNext, List.reverse_concat,
    List.takeWhile_cons]
  by_cases hSlash : c = Text.backslash
  · rw [if_pos (beq_iff_eq.mpr hSlash), List.length_cons,
      Nat.odd_add_one, and_iff_right hSlash]
  · rw [if_neg (mt beq_iff_eq.mp hSlash)]
    simp [hSlash]

/-
  Behind a text that escapes nothing, an escaped text escapes
  nothing at its end, but each of its own quotes.
-/
theorem escapesNext_escape
    {s : Text}
    (hPlain : ¬ EscapesNext s)
    (t : Text) :
    ¬ EscapesNext (s ++ escape t) ∧
      ∀ before after,
        escape t = before ++ Text.doubleQuote :: after →
          EscapesNext (s ++ before) := by
  induction t generalizing s with
  | nil =>
      refine ⟨by rwa [escape, List.append_nil], ?_⟩
      intro before after hSplit
      exact absurd hSplit.symm (by simp [escape])
  | cons c t ih =>
      rw [escape]
      split_ifs with hMark
      · have hTaken :
            EscapesNext (s ++ [Text.backslash]) :=
          (escapesNext_concat s _).mpr ⟨rfl, hPlain⟩
        have hAfter :
            ¬ EscapesNext (s ++ [Text.backslash, c]) := by
          rw [List.append_cons, escapesNext_concat]
          exact fun hBoth => hBoth.2 hTaken
        rcases ih hAfter with ⟨hEnd, hQuotes⟩
        refine ⟨by rwa [List.append_assoc] at hEnd, ?_⟩
        intro before after hSplit
        match before, hSplit with
        | [], hSplit =>
            exact absurd (List.head_eq_of_cons_eq hSplit)
              (by decide)
        | [d], hSplit =>
            obtain rfl : Text.backslash = d :=
              List.head_eq_of_cons_eq hSplit
            exact hTaken
        | d :: d' :: before, hSplit =>
            obtain rfl : Text.backslash = d :=
              List.head_eq_of_cons_eq hSplit
            have hLater := List.tail_eq_of_cons_eq hSplit
            obtain rfl : c = d' :=
              List.head_eq_of_cons_eq hLater
            have hQuote := hQuotes before after
              (List.tail_eq_of_cons_eq hLater)
            rwa [List.append_assoc] at hQuote
      · rw [not_or] at hMark
        have hAfter : ¬ EscapesNext (s ++ [c]) := by
          rw [escapesNext_concat]
          exact fun hBoth => hMark.1 hBoth.1
        rcases ih hAfter with ⟨hEnd, hQuotes⟩
        refine ⟨by rwa [List.append_assoc] at hEnd, ?_⟩
        intro before after hSplit
        match before, hSplit with
        | [], hSplit =>
            exact absurd (List.head_eq_of_cons_eq hSplit)
              hMark.2
        | d :: before, hSplit =>
            obtain rfl : c = d :=
              List.head_eq_of_cons_eq hSplit
            have hQuote := hQuotes before after
              (List.tail_eq_of_cons_eq hSplit)
            rwa [List.append_assoc] at hQuote

/-
  Whether a body is closed by the first quote behind it that is
  not escaped: none of its own quotes is such.
-/
def IsClosedBehind
    (body : Text) :
    Prop :=
  ¬ EscapesNext body ∧
    ∀ before after,
      body = before ++ Text.doubleQuote :: after →
        EscapesNext before

theorem isClosedBehind_escape
    (t : Text) :
    IsClosedBehind (escape t) :=
  escapesNext_escape not_escapesNext_nil t

------------------------------------------------------------
-- Literals Read
------------------------------------------------------------

/-
  The text of a body up to its closing quote, and what stands
  behind that; `taken` tells that a backslash is in front.
-/
def readBody?
    (taken : Bool) :
    Text → Option (Text × Text)
  | [] => none
  | c :: cs =>
      if taken then
        (readBody? false cs).map fun (t, rest) => (c :: t, rest)
      else if c = Text.backslash then readBody? true cs
      else if c = Text.doubleQuote then some ([], cs)
      else
        (readBody? false cs).map fun (t, rest) => (c :: t, rest)

/- The text of a literal, and what stands behind it. -/
def readLiteral? :
    Text → Option (Text × Text)
  | [] => none
  | c :: cs =>
      if c = Text.doubleQuote then readBody? false cs else none

theorem readBody?_escape
    (t u : Text) :
    readBody? false (escape t ++ Text.doubleQuote :: u) =
      some (t, u) := by
  induction t with
  | nil =>
      rw [escape, List.nil_append, readBody?,
        if_neg Bool.false_ne_true, if_neg (by decide), if_pos rfl]
  | cons c t ih =>
      rw [escape]
      split_ifs with hMark
      · rw [List.cons_append, List.cons_append, readBody?,
          if_neg Bool.false_ne_true, if_pos rfl, readBody?,
          if_pos rfl, ih]
        rfl
      · rw [not_or] at hMark
        rw [List.cons_append, readBody?,
          if_neg Bool.false_ne_true, if_neg hMark.1,
          if_neg hMark.2, ih]
        rfl

/- A literal is read in front of whatever text. -/
theorem readLiteral?_literal
    (t u : Text) :
    readLiteral? (literal t ++ u) = some (t, u) := by
  rw [literal, List.append_assoc, List.cons_append,
    readLiteral?, if_pos rfl]
  exact readBody?_escape t u

------------------------------------------------------------
-- Records Read
------------------------------------------------------------

/- What is read from the line of a text or a barcode. -/
inductive Reading where
  | text
      (x : Int)
      (y : Int)
      (rotation : Int)
      (font : Int)
      (data : Text)
  | barcode
      (x : Int)
      (y : Int)
      (rotation : Int)
      (symbol : Text)
      (height : Int)
      (readable : Bool)
      (data : Text)
  deriving DecidableEq

/- The meaning of the letter for the line under a barcode. -/
def readable?
    (letter : Text) :
    Option Bool :=
  if letter = "B" then some true
  else if letter = "N" then some false
  else none

/- The text of a literal with nothing behind it. -/
def readData?
    (t : Text) :
    Option Text :=
  match readLiteral? t with
  | some (data, []) => some data
  | _ => none

theorem readData?_literal
    (t : Text) :
    readData? (literal t) = some t := by
  have hRead := readLiteral?_literal t []
  rw [List.append_nil] at hRead
  rw [readData?, hRead]

theorem readable?_readableLetter
    (readable : Bool) :
    readable? (readableLetter readable) = some readable := by
  cases readable with
  | _ => decide

namespace Reading

/- Read the parameters of a text: seven parts and a literal. -/
def readText?
    (t : Text) :
    Option Reading := do
  let (parts, quoted) ← Text.cutTimes? ',' 7 t
  match parts with
  | [x, y, rotation, font, _, _, _] => do
      let x ← Text.ofNumeral? x
      let y ← Text.ofNumeral? y
      let rotation ← Text.ofNumeral? rotation
      let font ← Text.ofNumeral? font
      let data ← readData? quoted
      return .text x y rotation font data
  | _ => none

/- Read the parameters of a barcode: eight parts and a literal. -/
def readBarcode?
    (t : Text) :
    Option Reading := do
  let (parts, quoted) ← Text.cutTimes? ',' 8 t
  match parts with
  | [x, y, rotation, symbol, _, _, height, letter] => do
      let x ← Text.ofNumeral? x
      let y ← Text.ofNumeral? y
      let rotation ← Text.ofNumeral? rotation
      let height ← Text.ofNumeral? height
      let readable ← readable? letter
      let data ← readData? quoted
      return .barcode x y rotation symbol height readable data
  | _ => none

/- Read the line of a text or a barcode. -/
def read? :
    Text → Option Reading
  | .char 'A' :: t => readText? t
  | .char 'B' :: t => readBarcode? t
  | _ => none

end Reading

theorem comma_notMem_eplCode
    (s : Symbology) :
    CodePoint.char ',' ∉ s.eplCode := by
  cases s with
  | _ => decide

theorem comma_notMem_readableLetter
    (readable : Bool) :
    CodePoint.char ',' ∉ readableLetter readable := by
  cases readable with
  | _ => decide

theorem read?_text
    (x y rotation : Int)
    (font : Nat)
    (data : Text) :
    Reading.read? (Record.text x y rotation font data).written =
      some (.text x y rotation font data) := by
  have hComma : CodePoint.isNumeral ',' = false := rfl
  have hFront :
      ∀ part ∈ ([toString x, toString y, toString rotation,
        toString (font : Int), "1", "1", "N"] : List Text),
        CodePoint.char ',' ∉ part := by
    simp only [List.forall_mem_cons, not_false_eq_true,
      Text.notMem_numeral hComma, true_and]
    decide
  have hCut :
      Text.cutTimes? ',' 7
          (Text.intercalate ","
            (Record.text x y rotation font data).parameters) =
        some (_, literal data) :=
    Text.cutTimes?_intercalate hFront (literal data)
  change Reading.readText? (Text.intercalate "," _) = _
  rw [Reading.readText?, hCut]
  simp only [Option.bind_eq_bind, Option.bind_some,
    Text.ofNumeral?_numeral, readData?_literal]
  rfl

theorem read?_barcode
    (x y rotation : Int)
    (s : Symbology)
    (height : Int)
    (readable : Bool)
    (data : Text) :
    Reading.read?
        (Record.barcode x y rotation s height readable
          data).written =
      some (.barcode x y rotation s.eplCode height readable
        data) := by
  have hComma : CodePoint.isNumeral ',' = false := rfl
  have hFront :
      ∀ part ∈ ([toString x, toString y, toString rotation,
        s.eplCode, "2", "6", toString height,
        readableLetter readable] : List Text),
        CodePoint.char ',' ∉ part := by
    simp only [List.forall_mem_cons, not_false_eq_true,
      Text.notMem_numeral hComma, comma_notMem_eplCode,
      comma_notMem_readableLetter, true_and]
    decide
  have hCut :
      Text.cutTimes? ',' 8
          (Text.intercalate ","
            (Record.barcode x y rotation s height readable
              data).parameters) =
        some (_, literal data) :=
    Text.cutTimes?_intercalate hFront (literal data)
  change Reading.readBarcode? (Text.intercalate "," _) = _
  rw [Reading.readBarcode?, hCut]
  simp only [Option.bind_eq_bind, Option.bind_some,
    Text.ofNumeral?_numeral, readData?_literal,
    readable?_readableLetter]
  rfl

------------------------------------------------------------
-- Readings of Elements
------------------------------------------------------------

/- Whether a value turns by so many quarters, none to three. -/
def Turns
    (rotation : Value)
    (quarters : Int) :
    Prop :=
  quarterTurns rotation = .ok quarters ∧
    0 ≤ quarters ∧ quarters ≤ 3

theorem yields_quarterTurns
    (rotation : Value) :
    Yields (Turns rotation) (quarterTurns rotation) := by
  intro quarters hTurns
  rcases Outcome.bind_eq_ok_iff.mp hTurns with
    ⟨degrees, _, hQuarters⟩
  obtain rfl := Except.ok.inj hQuarters
  refine ⟨hTurns, ?_, ?_⟩
  · exact Int.emod_nonneg _ (by decide)
  · exact Int.le_of_lt_add_one (Int.emod_lt_of_pos _ (by decide))

/- Whether a font of the five is that for a size. -/
def HasFont
    (fontSize : Value)
    (font : Int) :
    Prop :=
  (∃ size, fontSize.doubleOrNaN = .ok size ∧
      font = fontFor (definedOrZero size)) ∧
    1 ≤ font ∧ font ≤ 5

theorem fontFor_within
    (size : Double) :
    1 ≤ fontFor size ∧ fontFor size ≤ 5 := by
  unfold fontFor
  split_ifs with h20 h16 h12 h10
  all_goals decide

namespace Reading

/- Whether a reading is what an element says on a grid of dots. -/
def Describes
    (scale : Scale)
    (e : Element) :
    Reading → Prop
  | text x y rotation font data =>
      scale.dots e.x = .ok x ∧ scale.dots e.y = .ok y ∧
        Turns e.rotation rotation ∧
        ∃ p, e.content = .text (.record p) ∧
          HasFont p.fontSize font ∧ data = p.text.fieldText
  | barcode x y rotation symbol height readable data =>
      scale.dots e.x = .ok x ∧ scale.dots e.y = .ok y ∧
        Turns e.rotation rotation ∧
        scale.dots e.height = .ok height ∧
        ∃ p s, e.content = .barcode (.record p) ∧
          Symbology.ofValue? p.symbology = some s ∧
          symbol = s.eplCode ∧ readable = p.showText.truthy ∧
          data = p.data.fieldText

end Reading

/- Whether a record is read as what an element says. -/
def Record.IsReadAs
    (scale : Scale)
    (e : Element)
    (r : Record) :
    Prop :=
  ∃ reading,
    Reading.read? r.written = some reading ∧
      reading.Describes scale e

variable {scale : Scale}
variable {e : Element}

theorem yields_read_text
    [Machine]
    {stored : Stored TextProperties}
    (hContent : e.content = .text stored) :
    Yields (Record.IsReadAs scale e)
      (textRecord scale e.toPlacement stored) := by
  refine stored.yields_get.bind fun p hp => ?_
  subst hp
  intro r hRecord
  rcases Outcome.bind_eq_ok_iff.mp hRecord with
    ⟨size, hSize, hRecord⟩
  rcases Outcome.bind_eq_ok_iff.mp hRecord with
    ⟨x, hx, hRecord⟩
  rcases Outcome.bind_eq_ok_iff.mp hRecord with
    ⟨y, hy, hRecord⟩
  rcases Outcome.bind_eq_ok_iff.mp hRecord with
    ⟨rotation, hRotation, hRecord⟩
  rcases Outcome.bind_eq_ok_iff.mp hRecord with ⟨_, _, hRecord⟩
  obtain rfl := Except.ok.inj hRecord
  have hFont := fontFor_within (definedOrZero size)
  refine ⟨_, read?_text _ _ _ _ _, hx, hy,
    yields_quarterTurns _ _ hRotation, p, hContent,
    ⟨⟨size, hSize, rfl⟩, ?_, ?_⟩, rfl⟩
  · exact Int.ofNat_le.mpr hFont.1
  · exact Int.ofNat_le.mpr hFont.2

theorem yields_read_barcode
    [Machine]
    {stored : Stored BarcodeProperties}
    (hContent : e.content = .barcode stored) :
    Yields (fun r? => ∀ r ∈ r?, r.IsReadAs scale e)
      (barcodeRecord? scale e.toPlacement stored) := by
  refine stored.yields_get.bind fun p hp => ?_
  subst hp
  split
  · exact yields_none
  · rename_i s hKnown
    intro r? hRecord
    rcases Outcome.bind_eq_ok_iff.mp hRecord with
      ⟨x, hx, hRecord⟩
    rcases Outcome.bind_eq_ok_iff.mp hRecord with
      ⟨y, hy, hRecord⟩
    rcases Outcome.bind_eq_ok_iff.mp hRecord with
      ⟨rotation, hRotation, hRecord⟩
    rcases Outcome.bind_eq_ok_iff.mp hRecord with
      ⟨height, hHeight, hRecord⟩
    rcases Outcome.bind_eq_ok_iff.mp hRecord with ⟨_, _, hRecord⟩
    obtain rfl := Except.ok.inj hRecord
    intro r hr
    obtain rfl := Option.some.inj hr
    exact ⟨_, read?_barcode _ _ _ _ _ _ _, hx, hy,
      yields_quarterTurns _ _ hRotation, hHeight, p, s,
      hContent, hKnown, rfl, rfl, rfl⟩

/- The records of a text or a barcode are read as what it says. -/
theorem yields_read_records
    [Machine]
    (options : EplOptions)
    (hData :
      (∃ stored, e.content = .text stored) ∨
        ∃ stored, e.content = .barcode stored) :
    Yields (fun rs => ∀ r ∈ rs, r.IsReadAs options.scale e)
      (records options e) := by
  unfold records
  rcases hData with ⟨stored, hContent⟩ | ⟨stored, hContent⟩
  · rw [hContent]
    exact (yields_read_text hContent).singleton
  · rw [hContent]
    exact (yields_read_barcode hContent).toList

/- The lines of a text or a barcode are read as what it says. -/
theorem exists_reading_of_mem_lines
    [Machine]
    {options : EplOptions}
    (hData :
      (∃ stored, e.content = .text stored) ∨
        ∃ stored, e.content = .barcode stored) :
    ∀ line ∈ Printer.lines ⟨.epl options⟩ e,
      ∃ reading,
        Reading.read? line = some reading ∧
          reading.Describes options.scale e := by
  apply Printer.forall_mem_lines
  refine (yields_read_records options hData).bind
    fun rs hRead => yields_ok ?_
  intro line hMember
  rcases List.mem_map.mp hMember with ⟨r, hr, rfl⟩
  exact hRead r hr

/-
  One reader finds the text of each literal and what stands
  behind it, since the first quote in a literal that no backslash
  escapes is its last.  Read with it at its commas, a line of a
  text or a barcode gives back all that it was written for.
-/
theorem encode_read_back
    [Machine] :
    (∀ t u : Text,
      literal t =
          Text.doubleQuote ::
            prefixed Text.doubleQuote
              (prefixed Text.backslash t) ++
            [Text.doubleQuote] ∧
        IsClosedBehind (escape t) ∧
        readLiteral? (literal t ++ u) = some (t, u)) ∧
      ∀ options e lines line,
        (Printer.encode ⟨.epl options⟩ e).result = .ok lines →
        line ∈ lines →
        (∃ stored, e.content = .text stored) ∨
          (∃ stored, e.content = .barcode stored) →
        ∃ reading,
          Reading.read? line = some reading ∧
            reading.Describes options.scale e := by
  refine ⟨fun t u => ⟨?_, isClosedBehind_escape t,
    readLiteral?_literal t u⟩, ?_⟩
  · rw [literal, escape_eq_prefixed]
  · intro options e lines line hLines hLine hData
    rw [← Printer.lines_of_encode hLines] at hLine
    exact exists_reading_of_mem_lines hData line hLine

/- A barcode whose data has both characters that are escaped. -/
theorem encode_read_back_barcode :
    let options : EplOptions :=
      ⟨⟨.double 203, 203, .dots, rfl⟩, .int 4, .int 1, .int 26,
        .int 1⟩
    let data : Text :=
      [Text.backslash, Text.doubleQuote, Text.backslash]
    let e : Element :=
      { x := .int (-5)
        rotation := .int 270
        height := .int 40
        content := .barcode (.record { data := .text data }) }
    let line : Text := "B-5,0,3,1,2,6,40,B," ++ literal data
    (Printer.encode ⟨.epl options⟩ e).result = .ok [line] ∧
      ∃ reading,
        Reading.read? line = some reading ∧
          reading.Describes options.scale e := by
  intro options data e line
  have hLines :
      (Printer.encode ⟨.epl options⟩ e).result = .ok [line] := by
    simp only [options, data, e, line]
    decide +kernel
  exact ⟨hLines, encode_read_back.2 options e [line] line hLines
    List.mem_cons_self (.inr ⟨_, rfl⟩)⟩

end Epl

end LabelPress

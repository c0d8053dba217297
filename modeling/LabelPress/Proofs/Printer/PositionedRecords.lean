import LabelPress.Machine.Usual
import LabelPress.Proofs.Printer.Lines
import LabelPress.Proofs.Stream.Emission
import LabelPress.Proofs.Text.ReadNumbers

/-
  Records of DPL read by position.

  A record is a code of a fixed length, numbers of four digits
  each, and the printed text up to the end.  So it can be read
  without looking for marks, and elements with the same record
  are of the same type and have the same numbers and text.

  Main declarations:
    * `Dpl.IsPosition`, `Dpl.Record.IsLaidOut`
    * `Dpl.Record.read?`, `Dpl.Record.IsLaidOut.read`
    * `Dpl.Record.Describes`, `Dpl.yields_described_records`
    * `Printer.encode_by_position`
-/

namespace LabelPress

namespace Dpl

open Outcome (Yields yields_ok yields_bind yields_none
  yields_some)

------------------------------------------------------------
-- Positions
------------------------------------------------------------

/- Whether a text is a number in exactly four digits. -/
structure IsPosition
    (n : Nat)
    (t : Text) :
    Prop where
  length : t.length = 4
  digits : ∀ c ∈ t, Text.isAsciiDigit c = true
  value : Text.naturalOf t = n

theorem isPosition_position
    {n : Nat}
    (hBound : n ≤ maxPosition) :
    IsPosition n (position n) where
  length :=
    Text.length_paddedDigits (by decide) (Nat.lt_succ_of_le hBound)
  digits _ := Text.isAsciiDigit_of_mem_paddedDigits
  value := Text.naturalOf_paddedDigits 4 n

/- The number of the four digits that a text starts with. -/
def position?
    (t : Text) :
    Option (Nat × Text) :=
  let ds := t.take 4
  if ds.length = 4 ∧ ds.all Text.isAsciiDigit then
    some (Text.naturalOf ds, t.drop 4)
  else none

theorem IsPosition.read
    {n : Nat}
    {t : Text}
    (hPosition : IsPosition n t)
    (rest : Text) :
    position? (t ++ rest) = some (n, rest) := by
  have hDigits : t.all Text.isAsciiDigit = true :=
    List.all_eq_true.mpr hPosition.digits
  rw [position?, List.take_left' hPosition.length,
    List.drop_left' hPosition.length,
    if_pos ⟨hPosition.length, hDigits⟩, hPosition.value]

------------------------------------------------------------
-- Records by Position
------------------------------------------------------------

namespace Record

/- Whether the positions of a record have at most four digits. -/
def IsBounded :
    Record → Prop
  | .text x y _ => x ≤ maxPosition ∧ y ≤ maxPosition
  | .barcode x y height _ =>
      x ≤ maxPosition ∧ y ≤ maxPosition ∧ height ≤ maxPosition

/- Whether a line has the parts of a record at their positions. -/
def IsLaidOut
    (line : Text) :
    Record → Prop
  | .text x y data =>
      ∃ dx dy, IsPosition x dx ∧ IsPosition y dy ∧
        line = textCode ++ dx ++ dy ++ data
  | .barcode x y height data =>
      ∃ dx dy dh, IsPosition x dx ∧ IsPosition y dy ∧
        IsPosition height dh ∧
        line = barcodeCode ++ dx ++ dy ++ dh ++ data

/- Read what follows the code of a text record. -/
def readText?
    (t : Text) :
    Option Record := do
  let (x, t) ← position? t
  let (y, data) ← position? t
  return .text x y data

/- Read what follows the code of a barcode record. -/
def readBarcode?
    (t : Text) :
    Option Record := do
  let (x, t) ← position? t
  let (y, t) ← position? t
  let (height, data) ← position? t
  return .barcode x y height data

/- The record of a line, read by position. -/
def read?
    (line : Text) :
    Option Record :=
  if line.take 15 = textCode then readText? (line.drop 15)
  else if line.take 13 = barcodeCode then
    readBarcode? (line.drop 13)
  else none

variable {r : Record}
variable {line : Text}

theorem isLaidOut_written
    (hBounded : r.IsBounded) :
    r.IsLaidOut r.written := by
  cases r with
  | text x y data =>
      exact ⟨_, _, isPosition_position hBounded.1,
        isPosition_position hBounded.2, rfl⟩
  | barcode x y height data =>
      exact ⟨_, _, _, isPosition_position hBounded.1,
        isPosition_position hBounded.2.1,
        isPosition_position hBounded.2.2, rfl⟩

/- The two codes differ within the length of the shorter one. -/
theorem take_barcodeCode_append_ne
    (t : Text) :
    (barcodeCode ++ t).take 15 ≠ textCode := by
  intro hSame
  have hSecond := congrArg (fun s => s[1]?) hSame
  exact absurd hSecond (by simp [barcodeCode, textCode, Text.ofString])

theorem IsLaidOut.read
    (hLaid : r.IsLaidOut line) :
    read? line = some r := by
  cases r with
  | text x y data =>
      rcases hLaid with ⟨dx, dy, hx, hy, rfl⟩
      have hLength : textCode.length = 15 := rfl
      rw [List.append_assoc, List.append_assoc, read?,
        List.take_left' hLength, List.drop_left' hLength,
        if_pos rfl, readText?, hx.read, Option.bind_eq_bind,
        Option.bind_some]
      dsimp only
      rw [hy.read, Option.bind_some]
      rfl
  | barcode x y height data =>
      rcases hLaid with ⟨dx, dy, dh, hx, hy, hh, rfl⟩
      have hLength : barcodeCode.length = 13 := rfl
      rw [List.append_assoc, List.append_assoc,
        List.append_assoc, read?,
        if_neg (take_barcodeCode_append_ne _),
        List.take_left' hLength, List.drop_left' hLength,
        if_pos rfl, readBarcode?, hx.read, Option.bind_eq_bind,
        Option.bind_some]
      dsimp only
      rw [hy.read, Option.bind_some]
      dsimp only
      rw [hh.read, Option.bind_some]
      rfl

end Record

------------------------------------------------------------
-- Records of Elements
------------------------------------------------------------

/- Whether a number is that of a value in dots, cut to 0 to 9999. -/
def IsClamped
    (scale : Scale)
    (v : Value)
    (n : Nat) :
    Prop :=
  ∃ dots, scale.dots v = .ok dots ∧
    (n : Int) = max 0 (min dots 9999)

theorem yields_positionOf
    (scale : Scale)
    (v : Value) :
    Yields (IsClamped scale v) (positionOf scale v) := by
  intro n hPosition
  rcases Outcome.bind_eq_ok_iff.mp hPosition with
    ⟨dots, hDots, hClamped⟩
  obtain rfl := Except.ok.inj hClamped
  refine ⟨dots, hDots, ?_⟩
  rw [clamped, maxPosition]
  omega

theorem IsClamped.bounded
    {scale : Scale}
    {v : Value}
    {n : Nat}
    (hClamped : IsClamped scale v n) :
    n ≤ maxPosition := by
  rcases hClamped with ⟨dots, _, hn⟩
  rw [maxPosition]
  omega

/- Whether a record is what an element says on a grid of dots. -/
def Record.Describes
    (scale : Scale)
    (e : Element) :
    Record → Prop
  | .text x y data =>
      IsClamped scale e.x x ∧ IsClamped scale e.y y ∧
        ∃ p, e.content = .text (.record p) ∧
          data = p.text.fieldText
  | .barcode x y height data =>
      IsClamped scale e.x x ∧ IsClamped scale e.y y ∧
        IsClamped scale e.height height ∧
        ∃ p, e.content = .barcode (.record p) ∧
          (Symbology.ofValue? p.symbology).isSome ∧
          data = p.data.fieldText

variable {scale : Scale}
variable {e : Element}

theorem Record.Describes.isBounded
    {r : Record}
    (hDescribes : r.Describes scale e) :
    r.IsBounded := by
  cases r with
  | text x y data =>
      exact ⟨hDescribes.1.bounded, hDescribes.2.1.bounded⟩
  | barcode x y height data =>
      exact ⟨hDescribes.1.bounded, hDescribes.2.1.bounded,
        hDescribes.2.2.1.bounded⟩

theorem yields_described_text
    [Machine]
    {stored : Stored TextProperties}
    (hContent : e.content = .text stored) :
    Yields (Record.Describes scale e)
      (textRecord scale e.toPlacement stored) :=
  (yields_positionOf scale e.x).bind fun _ hx =>
    (yields_positionOf scale e.y).bind fun _ hy =>
      stored.yields_get.bind fun p hp => yields_bind fun _ =>
        yields_ok ⟨hx, hy, p, hp ▸ hContent, rfl⟩

theorem yields_described_barcode
    [Machine]
    {stored : Stored BarcodeProperties}
    (hContent : e.content = .barcode stored) :
    Yields (fun r? => ∀ r ∈ r?, r.Describes scale e)
      (barcodeRecord? scale e.toPlacement stored) := by
  refine stored.yields_get.bind fun p hp => ?_
  split
  · exact yields_none
  · rename_i symbology hKnown
    have hSome : (Symbology.ofValue? p.symbology).isSome := by
      rw [hKnown]
      rfl
    exact (yields_positionOf scale e.x).bind fun _ hx =>
      (yields_positionOf scale e.y).bind fun _ hy =>
        (yields_positionOf scale e.height).bind fun _ hh =>
          yields_bind fun _ =>
            yields_some
              ⟨hx, hy, hh, p, hp ▸ hContent, hSome, rfl⟩

/- The records of an element say what the element does. -/
theorem yields_described_records
    [Machine]
    (options : DplOptions)
    (e : Element) :
    Yields (fun rs => ∀ r ∈ rs, r.Describes options.scale e)
      (records options e) := by
  unfold records
  cases hContent : e.content with
  | text stored => exact (yields_described_text hContent).singleton
  | barcode stored =>
      exact (yields_described_barcode hContent).toList
  | _ => exact yields_ok (by simp)

end Dpl

namespace Printer

/- The lines of an element are records that it is described by. -/
theorem exists_described_of_mem_lines
    [Machine]
    {options : DplOptions}
    {e : Element} :
    ∀ line ∈ lines ⟨.dpl options⟩ e,
      ∃ r : Dpl.Record,
        r.Describes options.scale e ∧ line = r.written := by
  apply forall_mem_lines
  refine (Dpl.yields_described_records options e).bind
    fun rs hDescribed => Outcome.yields_ok ?_
  intro line hMember
  rcases List.mem_map.mp hMember with ⟨r, hr, rfl⟩
  exact ⟨r, hDescribed r hr, rfl⟩

/-
  A line of an element is a code of 15 or 13 characters, numbers
  of four digits, and the printed text.  Read by position it gives
  the type, the clamped dots and the text of each element that has
  this line, on whatever grid.
-/
theorem encode_by_position
    [Machine]
    {options : DplOptions}
    {e : Element}
    {lines : List Text}
    {line : Text}
    (hLines :
      (encode ⟨.dpl options⟩ e).result = .ok lines)
    (hLine : line ∈ lines) :
    Dpl.textCode.length = 15 ∧ Dpl.barcodeCode.length = 13 ∧
      ∃ r : Dpl.Record,
        r.Describes options.scale e ∧ r.IsLaidOut line ∧
          Dpl.Record.read? line = some r ∧
          ∀ options' e' lines',
            (encode ⟨.dpl options'⟩ e').result = .ok lines' →
              line ∈ lines' → r.Describes options'.scale e' := by
  have hRead :
      ∀ options' e' lines',
        (encode ⟨.dpl options'⟩ e').result = .ok lines' →
          line ∈ lines' →
          ∃ r : Dpl.Record,
            r.Describes options'.scale e' ∧ r.IsLaidOut line := by
    intro options' e' lines' hLines' hLine'
    rw [← lines_of_encode hLines'] at hLine'
    rcases exists_described_of_mem_lines line hLine' with
      ⟨r, hDescribes, rfl⟩
    exact ⟨r, hDescribes,
      Dpl.Record.isLaidOut_written hDescribes.isBounded⟩
  rcases hRead options e lines hLines hLine with
    ⟨r, hDescribes, hLaid⟩
  refine ⟨rfl, rfl, r, hDescribes, hLaid, hLaid.read, ?_⟩
  intro options' e' lines' hLines' hLine'
  rcases hRead options' e' lines' hLines' hLine' with
    ⟨r', hDescribes', hLaid'⟩
  obtain rfl : r = r' :=
    Option.some.inj (hLaid.read.symm.trans hLaid'.read)
  exact hDescribes'

/- A text beyond both ends of the range of positions. -/
theorem encode_by_position_beyond :
    let options : DplOptions :=
      ⟨⟨.double 203, 203, .dots, rfl⟩, .int 1⟩
    let e : Element :=
      { x := .int 12345
        y := .int (-3)
        content := .text (.record { text := .text "2024" }) }
    let line : Text := "1911A0100000000999900002024"
    (encode ⟨.dpl options⟩ e).result = .ok [line] ∧
      ∃ r : Dpl.Record,
        r.Describes options.scale e ∧ r.IsLaidOut line ∧
          Dpl.Record.read? line = some r := by
  intro options e line
  have hLines :
      (encode ⟨.dpl options⟩ e).result = .ok [line] := by
    simp only [options, e, line]
    decide +kernel
  rcases encode_by_position hLines List.mem_cons_self with
    ⟨_, _, r, hDescribes, hLaid, hRead, _⟩
  exact ⟨hLines, r, hDescribes, hLaid, hRead⟩

end Printer

end LabelPress

import LabelPress.Machine.Usual
import LabelPress.Printer.Stream
import LabelPress.Proofs.Double.Vanishing
import LabelPress.Proofs.Outcome
import LabelPress.Proofs.Text.Numerals

/-
  Elements with missing coordinates.

  A coordinate that is missing, null or undefined, prints as zero
  where it is printed by itself.  A length that is worked out from
  several coordinates is zero as soon as one of them is undefined,
  so that it differs from what zeros would give.  Rounded boxes
  and circles of ZPL and boxes of EPL have such lengths.

  Main declarations:
    * `Value.orZero`, `Element.grounded`
    * `Printer.lengths`, `Printer.derivedDots`
    * `Printer.block_grounded_iff`
    * `Printer.encode_grounded_iff`
-/

namespace LabelPress

open Outcome (FailsAlike failsAlike_ok failsAlike_bind)

------------------------------------------------------------
-- Coordinates
------------------------------------------------------------

/- Zero for a missing value: for null or the undefined number. -/
def Value.orZero :
    Value → Value
  | .null => .double 0
  | .double x => .double (definedOrZero x)
  | v => v

/- A placement with zero for each of its missing coordinates. -/
def Placement.grounded
    (p : Placement) :
    Placement :=
  { p with
    x := p.x.orZero
    y := p.y.orZero
    width := p.width.orZero
    height := p.height.orZero }

/- An element with zero for each of its missing coordinates. -/
def Element.grounded
    (e : Element) :
    Element :=
  { e with toPlacement := e.toPlacement.grounded }

/-
  A coordinate can be read with zero for it when it can be read
  without.
-/
theorem Value.doubleOrNaN_orZero
    (v : Value) :
    (∃ f, v.doubleOrNaN = .error f ∧
      v.orZero.doubleOrNaN = .error f) ∨
    ∃ x x₀, v.doubleOrNaN = .ok x ∧
      v.orZero.doubleOrNaN = .ok x₀ := by
  have hKept :
      v.orZero = v ∨ v.doubleOrNaN = .ok .nan ∧
        v.orZero.doubleOrNaN = .ok 0 := by
    cases v with
    | null => exact .inr ⟨rfl, rfl⟩
    | double x =>
        cases x with
        | nan => exact .inr ⟨rfl, rfl⟩
        | infinite s => exact .inl rfl
        | finite s m e hCanonical => exact .inl rfl
    | _ => exact .inl rfl
  rcases hKept with hSame | ⟨hUndefined, hZero⟩
  · rw [hSame]
    cases v.doubleOrNaN with
    | error f => exact .inl ⟨f, rfl, rfl⟩
    | ok x => exact .inr ⟨x, x, rfl, rfl⟩
  · exact .inr ⟨.nan, 0, hUndefined, hZero⟩

theorem Value.failsAlike_orZero
    (v : Value) :
    FailsAlike v.orZero.doubleOrNaN v.doubleOrNaN := by
  rcases v.doubleOrNaN_orZero with
    ⟨f, hFault, hFault₀⟩ | ⟨x, x₀, hx, hx₀⟩
  · rw [hFault, hFault₀]
    exact fun _ => Iff.rfl
  · rw [hx, hx₀]
    exact failsAlike_ok x₀ x

section Printed

variable (scale : Scale)
variable (v w : Value)

/- A missing coordinate by itself has as many dots as zero. -/
@[simp] theorem Scale.dots_orZero :
    scale.dots v.orZero = scale.dots v := by
  have hZero : scale.wholeDots 0 = 0 :=
    scale.wholeDots_of_vanishes rfl
  have hUndefined : scale.wholeDots .nan = 0 :=
    scale.wholeDots_of_vanishes rfl
  have hSame : scale.wholeDots 0 = scale.wholeDots .nan := by
    rw [hZero, hUndefined]
  cases v with
  | null => exact congrArg Except.ok hSame
  | double x =>
      cases x with
      | nan => exact congrArg Except.ok hSame
      | infinite s => rfl
      | finite s m e hCanonical => rfl
  | _ => rfl

@[simp] theorem Zpl.originAt_orZero :
    Zpl.originAt scale v.orZero w.orZero =
      Zpl.originAt scale v w := by
  simp only [Zpl.originAt, Scale.dots_orZero]

@[simp] theorem Dpl.positionOf_orZero :
    Dpl.positionOf scale v.orZero =
      Dpl.positionOf scale v := by
  simp only [Dpl.positionOf, Scale.dots_orZero]

end Printed

------------------------------------------------------------
-- Lengths of Several Coordinates
------------------------------------------------------------

/-
  The lengths of a ZPL field that come from several coordinates
  or from half of one: where the bar of a rounded box starts and
  how wide it is, the centre and the radius of a circle.
-/
def Zpl.lengths
    (e : Element) :
    Except Fault (List Double) :=
  match e.content with
  | .box (.record q) => do
      let radius ← q.cornerRadius.doubleOrNaN
      if Double.lt 0 radius then do
        let x ← e.x.doubleOrNaN
        let width ← e.width.doubleOrNaN
        return [x + radius, width - 2 * radius]
      else return []
  | .circle _ => do
      let width ← e.width.doubleOrNaN
      let height ← e.height.doubleOrNaN
      let radius := Double.smaller width height / 2
      let x ← e.x.doubleOrNaN
      let y ← e.y.doubleOrNaN
      return [x + radius, y + radius, radius]
  | _ => return []

/- The lengths of an EPL record that come from two coordinates. -/
def Epl.lengths
    (e : Element) :
    Except Fault (List Double) :=
  match e.content with
  | .box _ => do
      let x ← e.x.doubleOrNaN
      let y ← e.y.doubleOrNaN
      let width ← e.width.doubleOrNaN
      let height ← e.height.doubleOrNaN
      return [x + width, y + height]
  | _ => return []

/- The lengths that a language works out from coordinates. -/
def Printer.lengths
    (p : Printer)
    (e : Element) :
    Except Fault (List Double) :=
  match p.options with
  | .zpl _ => Zpl.lengths e
  | .epl _ => Epl.lengths e
  | .dpl _ => return []

/- The lengths that a language works out, in whole dots. -/
def Printer.derivedDots
    (p : Printer)
    (e : Element) :
    Except Fault (List Int) := do
  let xs ← p.lengths e
  return xs.map p.options.scale.wholeDots

------------------------------------------------------------
-- Lines
------------------------------------------------------------

section Written

variable {x y width height : Int}
variable {x' y' width' height' : Int}

/- Circles of one thickness and ink are told apart by their lines. -/
theorem Zpl.written_circle_inj
    {radius radius' thickness : Int}
    {ink : Zpl.Ink} :
    (Zpl.Field.circle ⟨x, y⟩ radius thickness ink).written =
        (Zpl.Field.circle ⟨x', y'⟩ radius' thickness
          ink).written ↔
      x = x' ∧ y = y' ∧ radius = radius' := by
  have hLine :
      ∀ a b r : Int,
        (Zpl.Field.circle ⟨a, b⟩ r thickness ink).written =
          Text.ofString "^FO" ++
            (Text.ofString (toString a) ++ .char ',' ::
              (Text.ofString (toString b) ++ .char '^' ::
                (Text.ofString "GC" ++
                  (Text.ofString (toString r) ++ .char ',' ::
                    (Text.ofString (toString thickness) ++
                      (Text.ofString "," ++
                        (ink.letter ++
                          Text.ofString "^FS"))))))) := by
    intro a b r
    simp only [Zpl.Field.written, Zpl.Origin.command,
      List.append_assoc]
    rfl
  rw [hLine, hLine, List.append_cancel_left_eq,
    Text.numeral_append_cons_inj rfl,
    Text.numeral_append_cons_inj rfl,
    List.append_cancel_left_eq,
    Text.numeral_append_cons_inj rfl, and_iff_left rfl]

/- Bars at one height are told apart by their lines. -/
theorem Zpl.written_rectangle_inj
    {thickness : Int}
    {ink : Zpl.Ink} :
    (Zpl.Field.rectangle ⟨x, y⟩ width height thickness
          ink).written =
        (Zpl.Field.rectangle ⟨x', y⟩ width' height thickness
          ink).written ↔
      x = x' ∧ width = width' := by
  have hLine :
      ∀ a w : Int,
        (Zpl.Field.rectangle ⟨a, y⟩ w height thickness
            ink).written =
          Text.ofString "^FO" ++
            (Text.ofString (toString a) ++ .char ',' ::
              (Text.ofString (toString y) ++
                (Text.ofString "^GB" ++
                  (Text.ofString (toString w) ++ .char ',' ::
                    (Text.ofString (toString height) ++
                      (Text.ofString "," ++
                        (Text.ofString (toString thickness) ++
                          (Text.ofString "," ++
                            (ink.letter ++
                              Text.ofString "^FS"))))))))) := by
    intro a w
    simp only [Zpl.Field.written, Zpl.Origin.command,
      List.append_assoc]
    rfl
  rw [hLine, hLine, List.append_cancel_left_eq,
    Text.numeral_append_cons_inj rfl,
    List.append_cancel_left_eq, List.append_cancel_left_eq,
    Text.numeral_append_cons_inj rfl, and_iff_left rfl]

/- Boxes from one corner are told apart by their lines. -/
theorem Epl.written_box_inj
    {border right bottom right' bottom' : Int} :
    (Epl.Record.box x y border right bottom).written =
        (Epl.Record.box x y border right' bottom').written ↔
      right = right' ∧ bottom = bottom' := by
  have hLine :
      ∀ r b : Int,
        (Epl.Record.box x y border r b).written =
          Text.ofString "X" ++
            (Text.ofString (toString x) ++
              (Text.ofString "," ++
                (Text.ofString (toString y) ++
                  (Text.ofString "," ++
                    (Text.ofString (toString border) ++
                      (Text.ofString "," ++
                        (Text.ofString (toString r) ++
                          .char ',' ::
                            Text.ofString
                              (toString b)))))))) := by
    intro r b
    simp only [Epl.Record.written, Epl.Record.code,
      Epl.Record.parameters, Text.intercalate,
      List.intercalate, List.intersperse, List.flatten_cons,
      List.flatten_nil, List.append_nil]
    rfl
  rw [hLine, hLine]
  simp only [List.append_cancel_left_eq]
  rw [Text.numeral_append_cons_inj rfl]
  constructor
  · rintro ⟨hRight, hBottom⟩
    exact ⟨hRight, Text.numeral_injective hBottom⟩
  · rintro ⟨rfl, rfl⟩
    exact ⟨rfl, rfl⟩

end Written

------------------------------------------------------------
-- Blocks
------------------------------------------------------------

/-
  Whether missing coordinates of an element do not show: it has
  no block at all, or each length that is worked out from
  coordinates comes to the same dots with zeros for them.
-/
def Printer.TakesMissingAsZero
    [Machine]
    (p : Printer)
    (e : Element) :
    Prop :=
  (∃ f, p.block e = .error f) ∨
    p.derivedDots e.grounded = p.derivedDots e

section Blocks

variable {place : Placement}

theorem Zpl.block_circle_grounded_iff
    [Machine]
    {o : ZplOptions}
    {stored : Stored CircleProperties} :
    (Printer.mk (.zpl o)).block
          (Element.mk place (.circle stored)).grounded =
        (Printer.mk (.zpl o)).block
          (Element.mk place (.circle stored)) ↔
      (Printer.mk (.zpl o)).TakesMissingAsZero
        (Element.mk place (.circle stored)) := by
  simp only [Printer.TakesMissingAsZero, Printer.block,
    Printer.derivedDots, Printer.lengths, Zpl.fields,
    Zpl.circleField, Zpl.lengths, Element.grounded,
    Placement.grounded]
  rcases place.width.doubleOrNaN_orZero with
    ⟨f, h, h₀⟩ | ⟨w, w₀, hw, hw₀⟩
  · simp [h, h₀]
  rcases place.height.doubleOrNaN_orZero with
    ⟨f, h, h₀⟩ | ⟨t, t₀, ht, ht₀⟩
  · simp [hw, hw₀, h, h₀]
  rcases place.x.doubleOrNaN_orZero with
    ⟨f, h, h₀⟩ | ⟨x, x₀, hx, hx₀⟩
  · simp [hw, hw₀, ht, ht₀, h, h₀]
  rcases place.y.doubleOrNaN_orZero with
    ⟨f, h, h₀⟩ | ⟨y, y₀, hy, hy₀⟩
  · simp [hw, hw₀, ht, ht₀, hx, hx₀, h, h₀]
  cases stored.circleProperties with
  | error f =>
      simp [hw, hw₀, ht, ht₀, hx, hx₀, hy, hy₀]
  | ok q =>
      cases hBorder : o.scale.dots q.borderWidth with
      | error f =>
          simp [hw, hw₀, ht, ht₀, hx, hx₀, hy, hy₀, hBorder]
      | ok thickness =>
      cases hColor : q.borderColor.checkShown .color with
      | error f =>
          simp [hw, hw₀, ht, ht₀, hx, hx₀, hy, hy₀, hBorder,
            hColor]
      | ok _ =>
          simp [hw, hw₀, ht, ht₀, hx, hx₀, hy, hy₀, hBorder,
            hColor, Zpl.written_circle_inj]
          rfl

theorem Zpl.block_box_grounded_iff
    [Machine]
    {o : ZplOptions}
    {stored : Stored BoxProperties} :
    (Printer.mk (.zpl o)).block
          (Element.mk place (.box stored)).grounded =
        (Printer.mk (.zpl o)).block
          (Element.mk place (.box stored)) ↔
      (Printer.mk (.zpl o)).TakesMissingAsZero
        (Element.mk place (.box stored)) := by
  simp only [Printer.TakesMissingAsZero, Printer.block,
    Printer.derivedDots, Printer.lengths, Zpl.fields,
    Zpl.boxFields, Zpl.lengths, Element.grounded,
    Placement.grounded, Scale.dots_orZero,
    Zpl.originAt_orZero]
  cases hWidth : o.scale.dots place.width with
  | error f => simp
  | ok width =>
  cases hHeight : o.scale.dots place.height with
  | error f => simp
  | ok height =>
  cases stored with
  | foreign v => simp [Stored.get]
  | record q =>
  cases hOutline : o.scale.dots q.borderWidth with
  | error f => simp [Stored.get, hOutline]
  | ok outline =>
  cases hColor : q.borderColor.checkShown .color with
  | error f => simp [Stored.get, hOutline, hColor]
  | ok _ =>
  cases hFill : q.fillColor.checkShown .fill with
  | error f => simp [Stored.get, hOutline, hColor, hFill]
  | ok _ =>
  cases hOrigin : Zpl.originAt o.scale place.x place.y with
  | error f => simp [Stored.get, hOutline, hColor, hFill]
  | ok origin =>
  cases hRadius : q.cornerRadius.doubleOrNaN with
  | error f => simp [Stored.get, hOutline, hColor, hFill, hRadius]
  | ok radius =>
  cases hRound : Double.lt 0 radius with
  | false =>
      simp [Stored.get, hOutline, hColor, hFill, hRadius,
        Zpl.cornerBar?, hRound]
  | true =>
    rcases place.x.doubleOrNaN_orZero with
      ⟨f, h, h₀⟩ | ⟨x, x₀, hx, hx₀⟩
    · simp [Stored.get, hOutline, hColor, hFill, hRadius,
        Zpl.cornerBar?, hRound, h, h₀]
    rcases place.width.doubleOrNaN_orZero with
      ⟨f, h, h₀⟩ | ⟨w, w₀, hw, hw₀⟩
    · simp [Stored.get, hOutline, hColor, hFill, hRadius,
        Zpl.cornerBar?, hRound, hx, hx₀, h, h₀]
    cases hY : o.scale.dots place.y with
    | error f =>
        simp [Stored.get, hOutline, hColor, hFill, hRadius,
          Zpl.cornerBar?, hRound, hx, hx₀, hw, hw₀, hY]
    | ok y =>
        simp [Stored.get, hOutline, hColor, hFill, hRadius,
          Zpl.cornerBar?, hRound, hx, hx₀, hw, hw₀, hY,
          Zpl.written_rectangle_inj]
        rfl

theorem Epl.block_box_grounded_iff
    [Machine]
    {o : EplOptions}
    {stored : Stored BoxProperties} :
    (Printer.mk (.epl o)).block
          (Element.mk place (.box stored)).grounded =
        (Printer.mk (.epl o)).block
          (Element.mk place (.box stored)) ↔
      (Printer.mk (.epl o)).TakesMissingAsZero
        (Element.mk place (.box stored)) := by
  simp only [Printer.TakesMissingAsZero, Printer.block,
    Printer.derivedDots, Printer.lengths, Epl.records,
    Epl.boxRecord, Epl.lengths, Element.grounded,
    Placement.grounded]
  have hX := o.scale.dots_orZero place.x
  have hY := o.scale.dots_orZero place.y
  rcases place.x.doubleOrNaN_orZero with
    ⟨f, h, h₀⟩ | ⟨x, x₀, hx, hx₀⟩
  · simp [h, h₀]
  rcases place.y.doubleOrNaN_orZero with
    ⟨f, h, h₀⟩ | ⟨y, y₀, hy, hy₀⟩
  · simp [hx, hx₀, h, h₀]
  cases stored.boxBorder with
  | error f => simp [hx, hx₀, hy, hy₀]
  | ok outline =>
  cases hBorder : o.scale.dots outline with
  | error f => simp [hx, hx₀, hy, hy₀, hBorder]
  | ok border =>
  rcases place.width.doubleOrNaN_orZero with
    ⟨f, h, h₀⟩ | ⟨w, w₀, hw, hw₀⟩
  · simp [hx, hx₀, hy, hy₀, hBorder, h, h₀]
  rcases place.height.doubleOrNaN_orZero with
    ⟨f, h, h₀⟩ | ⟨t, t₀, ht, ht₀⟩
  · simp [hx, hx₀, hy, hy₀, hBorder, hw, hw₀, h,
      h₀]
  have hCorner :
      o.scale.wholeDots x₀ = o.scale.wholeDots x ∧
        o.scale.wholeDots y₀ = o.scale.wholeDots y := by
    simpa [Scale.dots, hx, hx₀, hy, hy₀] using
      And.intro hX hY
  simp [hx, hx₀, hy, hy₀, hBorder, hw, hw₀, ht,
    ht₀, hCorner, Epl.written_box_inj]
  rfl

/- A field of coordinates by themselves has zeros for missing ones. -/
theorem Zpl.block_grounded
    [Machine]
    {o : ZplOptions}
    {content : Content}
    (hBox : ∀ stored, content ≠ .box stored)
    (hCircle : ∀ stored, content ≠ .circle stored) :
    (Printer.mk (.zpl o)).block (Element.mk place content).grounded =
      (Printer.mk (.zpl o)).block (Element.mk place content) := by
  cases content with
  | box stored => exact absurd rfl (hBox stored)
  | circle stored => exact absurd rfl (hCircle stored)
  | _ =>
      simp [Printer.block, Zpl.fields, Zpl.textField, Zpl.lineField,
        Zpl.barcodeField?, Zpl.imageField?, Element.grounded,
        Placement.grounded]

/- So does a record of coordinates by themselves. -/
theorem Epl.block_grounded
    [Machine]
    {o : EplOptions}
    {content : Content}
    (hBox : ∀ stored, content ≠ .box stored) :
    (Printer.mk (.epl o)).block (Element.mk place content).grounded =
      (Printer.mk (.epl o)).block (Element.mk place content) := by
  cases content with
  | box stored => exact absurd rfl (hBox stored)
  | _ =>
      simp [Printer.block, Epl.records, Epl.textRecord,
        Epl.lineRecord, Epl.barcodeRecord?, Epl.imageRecord?,
        Element.grounded, Placement.grounded]

theorem Dpl.block_grounded
    [Machine]
    {o : DplOptions}
    (content : Content) :
    (Printer.mk (.dpl o)).block (Element.mk place content).grounded =
      (Printer.mk (.dpl o)).block (Element.mk place content) := by
  cases content with
  | _ =>
      simp [Printer.block, Dpl.records, Dpl.textRecord,
        Dpl.barcodeRecord?, Element.grounded, Placement.grounded]

/- A circle with zeros for missing coordinates fails as without. -/
theorem Zpl.failsAlike_circleField
    [Machine]
    {scale : Scale}
    (place : Placement)
    (stored : Stored CircleProperties) :
    FailsAlike (circleField scale place.grounded stored)
      (circleField scale place stored) :=
  place.width.failsAlike_orZero.bind fun _ _ =>
    place.height.failsAlike_orZero.bind fun _ _ =>
      place.x.failsAlike_orZero.bind fun _ _ =>
        place.y.failsAlike_orZero.bind fun _ _ =>
          failsAlike_bind fun _ => failsAlike_bind fun _ =>
            failsAlike_bind fun _ => failsAlike_ok _ _

theorem Zpl.failsAlike_cornerBar?
    {scale : Scale}
    (place : Placement)
    (border : Int)
    (ink : Zpl.Ink)
    (radius : Double) :
    FailsAlike (cornerBar? scale place.grounded border ink radius)
      (cornerBar? scale place border ink radius) := by
  unfold cornerBar?
  split_ifs with hRound
  · simp only [Placement.grounded, Scale.dots_orZero]
    exact place.x.failsAlike_orZero.bind fun _ _ =>
      place.width.failsAlike_orZero.bind fun _ _ =>
        failsAlike_bind fun _ => failsAlike_ok _ _
  · exact failsAlike_ok _ _

/- So does a box, whether its corners are round or not. -/
theorem Zpl.failsAlike_boxFields
    [Machine]
    {scale : Scale}
    (place : Placement)
    (stored : Stored BoxProperties) :
    FailsAlike (boxFields scale place.grounded stored)
      (boxFields scale place stored) := by
  have hSize :
      scale.dots place.grounded.width = scale.dots place.width ∧
        scale.dots place.grounded.height =
          scale.dots place.height := by
    simp [Placement.grounded]
  have hOrigin :
      originAt scale place.grounded.x place.grounded.y =
        originAt scale place.x place.y := by
    simp [Placement.grounded]
  simp only [boxFields, hSize.1, hSize.2, hOrigin]
  exact failsAlike_bind fun _ => failsAlike_bind fun _ =>
    failsAlike_bind fun _ => failsAlike_bind fun _ =>
      failsAlike_bind fun _ => failsAlike_bind fun _ =>
        failsAlike_bind fun _ => failsAlike_bind fun _ =>
          (failsAlike_cornerBar? place _ _ _).bind fun _ _ =>
            failsAlike_ok _ _

theorem Epl.failsAlike_boxRecord
    {scale : Scale}
    (place : Placement)
    (stored : Stored BoxProperties) :
    FailsAlike (boxRecord scale place.grounded stored)
      (boxRecord scale place stored) :=
  place.x.failsAlike_orZero.bind fun _ _ =>
    place.y.failsAlike_orZero.bind fun _ _ =>
      failsAlike_bind fun _ => failsAlike_bind fun _ =>
        place.width.failsAlike_orZero.bind fun _ _ =>
          place.height.failsAlike_orZero.bind fun _ _ =>
            failsAlike_ok _ _

end Blocks

namespace Printer

variable {p : Printer}
variable {e : Element}

theorem block_grounded_iff
    [Machine] :
    p.block e.grounded = p.block e ↔ p.TakesMissingAsZero e := by
  rcases p with ⟨options⟩
  rcases e with ⟨place, content⟩
  cases options with
  | zpl o =>
      cases content with
      | box stored => exact Zpl.block_box_grounded_iff
      | circle stored => exact Zpl.block_circle_grounded_iff
      | _ =>
          exact iff_of_true (Zpl.block_grounded nofun nofun)
            (.inr rfl)
  | epl o =>
      cases content with
      | box stored => exact Epl.block_box_grounded_iff
      | _ => exact iff_of_true (Epl.block_grounded nofun) (.inr rfl)
  | dpl o => exact iff_of_true (Dpl.block_grounded content) (.inr rfl)

/- Zeros for missing coordinates keep what cannot be printed. -/
theorem failsAlike_block_grounded
    [Machine]
    (p : Printer)
    (e : Element) :
    FailsAlike (p.block e.grounded) (p.block e) := by
  have hSame {x y : Except Fault (List Text)} (h : x = y) :
      FailsAlike x y :=
    fun f => by rw [h]
  rcases p with ⟨options⟩
  rcases e with ⟨place, content⟩
  cases options with
  | zpl o =>
      cases content with
      | box stored =>
          exact (Zpl.failsAlike_boxFields place stored).bind
            fun _ _ => failsAlike_ok _ _
      | circle stored =>
          exact ((Zpl.failsAlike_circleField place stored).bind
            fun _ _ => failsAlike_ok _ _).bind
              fun _ _ => failsAlike_ok _ _
      | _ => exact hSame (Zpl.block_grounded nofun nofun)
  | epl o =>
      cases content with
      | box stored =>
          exact ((Epl.failsAlike_boxRecord place stored).bind
            fun _ _ => failsAlike_ok _ _).bind
              fun _ _ => failsAlike_ok _ _
      | _ => exact hSame (Epl.block_grounded nofun)
  | dpl o => exact hSame (Dpl.block_grounded content)

/-
  Elements of a known type that fail alike print alike when their
  blocks agree.
-/
theorem encode_eq_iff_block_eq
    [Machine]
    {e' : Element}
    (hContent : e'.content = e.content)
    (hId : e'.id = e.id)
    (hKnown : hasKnownType e = true)
    (hFails : FailsAlike (p.block e') (p.block e)) :
    p.encode e' = p.encode e ↔ p.block e' = p.block e := by
  have hKnown' : hasKnownType e' = true := by
    rw [hasKnownType, hContent]
    exact hKnown
  have hSkip (f : Fault) : skip e' f = skip e f := by
    rw [skip, skip, hId]
  simp only [encode, hKnown, hKnown', if_true, hSkip]
  cases hBlock : p.block e with
  | error f =>
      rw [(hFails f).mpr hBlock]
      exact iff_of_true rfl rfl
  | ok lines =>
      cases hBlock' : p.block e' with
      | error f =>
          have hFault := (hFails f).mp hBlock'
          rw [hBlock] at hFault
          cases hFault
      | ok lines' =>
          constructor
          · intro hSame
            injection hSame
          · intro hSame
            cases hSame
            rfl

/-
  An element prints as with zeros for its missing coordinates
  exactly when it cannot be printed at all or every length that is
  worked out from its coordinates comes to the same dots.
-/
theorem encode_grounded_iff
    [Machine]
    (p : Printer)
    (e : Element) :
    p.encode e.grounded = p.encode e ↔
      (∃ f, p.block e = .error f) ∨
        p.derivedDots e.grounded = p.derivedDots e := by
  cases hKnown : hasKnownType e with
  | true =>
      have hBlocks :
          p.encode e.grounded = p.encode e ↔
            p.block e.grounded = p.block e :=
        encode_eq_iff_block_eq rfl rfl hKnown
          (failsAlike_block_grounded p e)
      exact hBlocks.trans block_grounded_iff
  | false =>
      have hUnknown : hasKnownType e.grounded = false := hKnown
      have hPrinted : p.encode e.grounded = p.encode e := by
        rw [encode, encode, hKnown, hUnknown]
        rfl
      have hLengths : p.derivedDots e.grounded = p.derivedDots e := by
        rcases p with ⟨options⟩
        rcases e with ⟨place, content⟩
        cases content <;> cases options <;> first
          | rfl
          | cases hKnown
      exact iff_of_true hPrinted (.inr hLengths)

/-
  A box of 30 by 20 dots without an x ends at dot 0 of an EPL
  label, with zero for x at dot 30.
-/
theorem encode_grounded_ne :
    let box : Element :=
      { x := .null
        y := .int 10
        width := .int 30
        height := .int 20
        content := .box (.record {}) }
    let printed := fun e => do
      let p ← Printer.ofSource (.text "EPL") (.data .null)
      p.encode e
    (printed box).result = .ok ["X0,10,2,0,30"] ∧
      (printed box.grounded).result = .ok ["X0,10,2,30,30"] := by
  decide +kernel

end Printer

end LabelPress

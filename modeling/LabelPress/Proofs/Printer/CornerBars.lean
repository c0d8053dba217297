import LabelPress.Proofs.Double.HalfAway
import LabelPress.Proofs.Label.Settled

/-
  Bars of rounded boxes.

  ZPL has no rounded corners, so that a box with a corner radius
  gets a second line, a bar that is set in by the radius on both
  sides of the top edge.  No one asks whether the box is wide
  enough for both: when it is not, the bar has a width below zero.

  Main declarations:
    * `Value.Denotes`, `Scale.dots_of_denotes`
    * `Element.IsRoundedBox`
    * `Zpl.outline`, `Zpl.bar`, `Zpl.fields_roundedBox`
    * `Printer.encode_roundedBox_iff`
-/

namespace LabelPress

------------------------------------------------------------
-- Integers in Dots
------------------------------------------------------------

/- Whether a value is read as exactly an integer. -/
def Value.Denotes
    (v : Value)
    (n : Int) :
    Prop :=
  ∃ x, v.doubleOrNaN = .ok x ∧ x.IsInteger n

section Integers

variable {scale : Scale}
variable {x : Double}
variable {n : Int}

theorem Scale.wholeDots_of_isInteger
    (hUnits : scale.units = .dots)
    (hx : x.IsInteger n)
    (hSmall : n.natAbs < 2 ^ 52) :
    scale.wholeDots x = n := by
  rw [wholeDots, hUnits]
  exact hx.halfAway (Double.isSettled_of_lt hSmall)

theorem Scale.dots_of_denotes
    {v : Value}
    (hUnits : scale.units = .dots)
    (hv : v.Denotes n)
    (hSmall : n.natAbs < 2 ^ 52) :
    scale.dots v = .ok n := by
  rcases hv with ⟨x, hRead, hx⟩
  rw [dots, hRead, Outcome.ok_bind,
    wholeDots_of_isInteger hUnits hx hSmall]
  rfl

/- A size is not below zero. -/
theorem Value.IsExtent.nonneg
    {v : Value}
    (hExtent : v.IsExtent)
    (hv : v.Denotes n) :
    0 ≤ n := by
  rcases hExtent with ⟨x, rfl, _, hAbove⟩
  rcases hv with ⟨y, hRead, hy⟩
  obtain rfl : x = y := Except.ok.inj hRead
  exact hy.zero_le_iff.mp hAbove

end Integers

------------------------------------------------------------
-- Rounded Boxes
------------------------------------------------------------

/-
  Whether an element is a box of integer sizes with rounded
  corners, which double arithmetic works out exactly.
-/
structure Element.IsRoundedBox
    (e : Element)
    (q : BoxProperties)
    (x y width height border radius : Int) :
    Prop where
  content : e.content = .box (.record q)
  readX : e.x.Denotes x
  readY : e.y.Denotes y
  readWidth : e.width.Denotes width
  readHeight : e.height.Denotes height
  readBorder : q.borderWidth.Denotes border
  readRadius : q.cornerRadius.Denotes radius
  border_nonneg : 0 ≤ border
  radius_pos : 0 < radius
  small :
    ∀ n ∈ [x, y, width, height, border, radius],
      n.natAbs < 2 ^ 50

namespace Zpl

/- Whether a rectangle has no size below zero. -/
def Field.IsDrawable :
    Field → Prop
  | .rectangle _ width height thickness _ =>
      0 ≤ width ∧ 0 ≤ height ∧ 0 ≤ thickness
  | _ => True

/- Whether a rectangle has both its sides between another's. -/
def Field.IsBetweenSides
    (f outer : Field) :
    Prop :=
  match f, outer with
  | .rectangle o width .., .rectangle o' width' .. =>
      ∀ side ∈ [o.x, o.x + width],
        o'.x ≤ side ∧ side ≤ o'.x + width'
  | _, _ => False

/- The thickness of a box, which fills it if it has a fill. -/
def thickness
    (q : BoxProperties)
    (width height border : Int) :
    Int :=
  if hasFill q.fillColor then min width height else border

/- The outline of a box. -/
def outline
    (q : BoxProperties)
    (x y width height border : Int) :
    Field :=
  .rectangle ⟨x, y⟩ width height (thickness q width height border)
    (inkFor q.borderColor)

/- The bar along the top edge of a box with rounded corners. -/
def bar
    (q : BoxProperties)
    (x y width height border radius : Int) :
    Field :=
  .rectangle ⟨x + radius, y⟩ (width - 2 * radius)
    (thickness q width height border)
    (thickness q width height border) (inkFor q.borderColor)

section Fields

variable {e : Element}
variable {o : ZplOptions}
variable {q : BoxProperties}
variable {x y width height border radius : Int}

/- A rounded box of integer sizes is its outline and its bar. -/
theorem fields_roundedBox
    [Machine]
    (hUnits : o.scale.units = .dots)
    (hBox : e.IsRoundedBox q x y width height border radius)
    (hColor : q.borderColor.checkShown .color = .ok ())
    (hFill : q.fillColor.checkShown .fill = .ok ()) :
    Zpl.fields o e =
      .ok [outline q x y width height border,
        bar q x y width height border radius] := by
  have hSmall : ∀ n : Int, n.natAbs < 2 ^ 50 → n.natAbs < 2 ^ 52 :=
    fun n hn => hn.trans (by decide)
  have hx := hBox.small x (by simp)
  have hy := hBox.small y (by simp)
  have hw := hBox.small width (by simp)
  have hh := hBox.small height (by simp)
  have hb := hBox.small border (by simp)
  have hr := hBox.small radius (by simp)
  have hX := Scale.dots_of_denotes hUnits hBox.readX (hSmall x hx)
  have hY := Scale.dots_of_denotes hUnits hBox.readY (hSmall y hy)
  have hWidth :=
    Scale.dots_of_denotes hUnits hBox.readWidth (hSmall width hw)
  have hHeight :=
    Scale.dots_of_denotes hUnits hBox.readHeight (hSmall height hh)
  have hBorder :=
    Scale.dots_of_denotes hUnits hBox.readBorder (hSmall border hb)
  rcases hBox.readX with ⟨x', hReadX, hIntX⟩
  rcases hBox.readWidth with ⟨w', hReadW, hIntW⟩
  rcases hBox.readRadius with ⟨r', hReadR, hIntR⟩
  have hRound : Double.lt 0 r' = true :=
    hIntR.zero_lt_iff.mpr hBox.radius_pos
  have hStart :
      o.scale.wholeDots (x' + r') = x + radius :=
    Scale.wholeDots_of_isInteger hUnits
      (hIntX.add hIntR (by omega)) (by omega)
  have hLength :
      o.scale.wholeDots (w' - 2 * r') = width - 2 * radius :=
    Scale.wholeDots_of_isInteger hUnits
      (hIntW.sub (hIntR.double (by omega)) (by omega))
      (by omega)
  simp only [fields, hBox.content, boxFields, Stored.get, originAt,
    cornerBar?, hX, hY, hWidth, hHeight, hBorder, hReadX, hReadW,
    hReadR, hRound, hStart, hLength, hColor, hFill,
    Outcome.ok_bind, if_true]
  rfl

/-
  On a box without negative sizes the outline is drawn as it
  should be.  The bar is, between the sides of the box, exactly
  when the box is wide enough for both corners.
-/
theorem bar_drawable_iff
    (hWidth : 0 ≤ width)
    (hHeight : 0 ≤ height)
    (hBorder : 0 ≤ border)
    (hRadius : 0 < radius) :
    (outline q x y width height border).IsDrawable ∧
      ((bar q x y width height border radius).IsDrawable ∧
          (bar q x y width height border radius).IsBetweenSides
            (outline q x y width height border) ↔
        2 * radius ≤ width) := by
  have hThickness : 0 ≤ thickness q width height border := by
    unfold thickness
    split_ifs
    · exact le_min hWidth hHeight
    · exact hBorder
  refine ⟨⟨hWidth, hHeight, hThickness⟩, ?_⟩
  simp only [Field.IsDrawable, Field.IsBetweenSides, outline, bar,
    List.forall_mem_cons, List.not_mem_nil, false_implies,
    implies_true, and_true]
  omega

end Fields

end Zpl

------------------------------------------------------------
-- Loaded Boxes
------------------------------------------------------------

namespace Printer

/-
  A rounded box that is read from an object is printed as its
  outline, in which no size is below zero, and its bar, if its
  colors can be shown.  The bar is as it should be, within the
  box, exactly when both corners fit into the width.
-/
theorem encode_roundedBox_iff
    [Machine]
    {fields : Fields}
    {position : Position}
    {e : Element}
    {o : ZplOptions}
    {q : BoxProperties}
    {x y width height border radius : Int}
    (hLoaded : (Element.ofFields fields position).result = .ok e)
    (hUnits : o.scale.units = .dots)
    (hBox : e.IsRoundedBox q x y width height border radius) :
    let outline := Zpl.outline q x y width height border
    let bar := Zpl.bar q x y width height border radius
    (q.borderColor.checkShown .color = .ok () →
        q.fillColor.checkShown .fill = .ok () →
          (Printer.mk (.zpl o)).encode e =
            .ok [outline.written, bar.written]) ∧
      outline.IsDrawable ∧
      (bar.IsDrawable ∧ bar.IsBetweenSides outline ↔
        2 * radius ≤ width) := by
  intro outline bar
  have hSettled := Element.isSettled_of_ofFields hLoaded
  refine ⟨fun hColor hFill => ?_, Zpl.bar_drawable_iff
    (hSettled.width.nonneg hBox.readWidth)
    (hSettled.height.nonneg hBox.readHeight) hBox.border_nonneg
    hBox.radius_pos⟩
  rw [encode, hasKnownType, hBox.content, if_pos rfl, block]
  dsimp only
  rw [Zpl.fields_roundedBox hUnits hBox hColor hFill]
  rfl

/- An object of a box with integer sizes and rounded corners. -/
def roundedBox
    (x y width height radius : Int) :
    Fields :=
  [("type", .text "box"), ("x", .int x), ("y", .int y),
    ("width", .int width), ("height", .int height),
    ("properties", .object [("cornerRadius", .int radius)])]

/- The element of such a box. -/
def boxElement
    (x y width height : Double)
    (radius : Int) :
    Element where
  id := .text "element_0"
  x := .double x
  y := .double y
  width := .double width
  height := .double height
  content := .box (.record { cornerRadius := .int radius })

/- The options of a printer for canvases in dots. -/
def dotsOptions : ZplOptions where
  scale := ⟨.int 203, 203, .dots, rfl⟩
  printSpeed := .int 4
  density := .int 8
  tearOff := .int 0

/- A box that is wide enough for its corners. -/
theorem encode_roundedBox_iff_wide :
    let q : BoxProperties := { cornerRadius := .int 5 }
    let e := boxElement 10 10 100 50 5
    (Element.ofFields (roundedBox 10 10 100 50 5)
        (.index 0)).result = .ok e ∧
      e.IsRoundedBox q 10 10 100 50 2 5 ∧
      (Printer.mk (.zpl dotsOptions)).encode e =
        .ok [(Zpl.outline q 10 10 100 50 2).written,
          (Zpl.bar q 10 10 100 50 2 5).written] ∧
      (Zpl.bar q 10 10 100 50 2 5).IsDrawable := by
  intro q e
  have hLoaded :
      (Element.ofFields (roundedBox 10 10 100 50 5)
        (.index 0)).result = .ok e := by
    rfl
  have hBox : e.IsRoundedBox q 10 10 100 50 2 5 :=
    { content := rfl
      readX := ⟨10, rfl, by decide +kernel⟩
      readY := ⟨10, rfl, by decide +kernel⟩
      readWidth := ⟨100, rfl, by decide +kernel⟩
      readHeight := ⟨50, rfl, by decide +kernel⟩
      readBorder := ⟨2, rfl, by decide +kernel⟩
      readRadius := ⟨5, rfl, by decide +kernel⟩
      border_nonneg := by decide
      radius_pos := by decide
      small := by decide }
  rcases encode_roundedBox_iff (o := dotsOptions) hLoaded rfl
      hBox with ⟨hLines, _, hBar⟩
  exact ⟨hLoaded, hBox, hLines rfl rfl,
    (hBar.mpr (by decide)).1⟩

/-
  A box without width and with a corner radius of one dot: its bar
  is to be drawn with a width of minus two dots, from behind the
  right side of the box.
-/
theorem encode_roundedBox_narrow :
    let q : BoxProperties := { cornerRadius := .int 1 }
    let e := boxElement 10 20 0 5 1
    let bar := Zpl.bar q 10 20 0 5 2 1
    (Element.ofFields (roundedBox 10 20 0 5 1)
        (.index 0)).result = .ok e ∧
      e.IsRoundedBox q 10 20 0 5 2 1 ∧
      ((Printer.mk (.zpl dotsOptions)).encode e).result =
        .ok ["^FO10,20^GB0,5,2,B^FS",
          "^FO11,20^GB-2,2,2,B^FS"] ∧
      bar.written = "^FO11,20^GB-2,2,2,B^FS" ∧
      ¬ bar.IsDrawable ∧
      ¬ bar.IsBetweenSides (Zpl.outline q 10 20 0 5 2) := by
  intro q e bar
  have hLoaded :
      (Element.ofFields (roundedBox 10 20 0 5 1)
        (.index 0)).result = .ok e := by
    rfl
  have hBox : e.IsRoundedBox q 10 20 0 5 2 1 :=
    { content := rfl
      readX := ⟨10, rfl, by decide +kernel⟩
      readY := ⟨20, rfl, by decide +kernel⟩
      readWidth := ⟨0, rfl, by decide +kernel⟩
      readHeight := ⟨5, rfl, by decide +kernel⟩
      readBorder := ⟨2, rfl, by decide +kernel⟩
      readRadius := ⟨1, rfl, by decide +kernel⟩
      border_nonneg := by decide
      radius_pos := by decide
      small := by decide }
  refine ⟨hLoaded, hBox, ?_, ?_, ?_, ?_⟩
  · decide +kernel
  · decide +kernel
  · rintro ⟨hWidth, _⟩
    exact absurd hWidth (by decide)
  · intro hBetween
    have hStart := hBetween 11 (by decide)
    exact absurd hStart.2 (by decide)

end Printer

end LabelPress

import LabelPress.Barcode.Symbology
import LabelPress.Label.Canvas
import LabelPress.Printer.Field
import LabelPress.Printer.Options

/-
  Fields of the ZPL language.

  A label is opened by `^XA` and closed by `^XZ`.  Between them
  stands one line per field, which starts at its origin and ends
  in `^FS`.

  Key definitions include:
    * `Zpl.Field`, with `Zpl.Field.written`
    * `Zpl.fields`, the fields of an element
    * `Zpl.opening`, `Zpl.closing`
-/

namespace LabelPress

variable [Machine]

namespace Zpl

------------------------------------------------------------
-- Fields
------------------------------------------------------------

/- A corner on the grid of dots. -/
structure Origin where
  x : Int
  y : Int
  deriving DecidableEq

/- The four directions of a field. -/
inductive Orientation where
  | normal
  | rotated
  | inverted
  | bottomUp
  deriving DecidableEq

/- The colour of drawn lines. -/
inductive Ink where
  | black
  | white
  deriving DecidableEq

/- The alignment of a text within its block. -/
inductive Alignment where
  | center
  | right
  deriving DecidableEq

/- A field of a label. -/
inductive Field where
  | text
      (origin : Origin)
      (font : CodePoint)
      (orientation : Orientation)
      (height : Int)
      (width : Int)
      (alignment : Option Alignment)
      (data : Text)
  | rectangle
      (origin : Origin)
      (width : Int)
      (height : Int)
      (thickness : Int)
      (ink : Ink)
  | circle
      (origin : Origin)
      (radius : Int)
      (thickness : Int)
      (ink : Ink)
  | barcode
      (origin : Origin)
      (symbology : Symbology)
      (orientation : Orientation)
      (height : Int)
      (readable : Bool)
      (data : Text)
  | image
      (origin : Origin)
      (total : Int)
      (rowBytes : Int)
  deriving DecidableEq

------------------------------------------------------------
-- Lines
------------------------------------------------------------

/- The letter of an orientation. -/
def Orientation.letter :
    Orientation → Text
  | normal => "N"
  | rotated => "R"
  | inverted => "I"
  | bottomUp => "B"

/- The letter of an ink. -/
def Ink.letter :
    Ink → Text
  | black => "B"
  | white => "W"

/- The letter of an alignment. -/
def Alignment.letter :
    Alignment → Text
  | center => "C"
  | right => "R"

/- The command that moves to an origin. -/
def Origin.command
    (o : Origin) :
    Text :=
  "^FO" ++ toString o.x ++ "," ++ toString o.y

/- The command for a block of aligned text. -/
def alignmentCommand :
    Option Alignment → Text
  | none => ""
  | some a => "^FB200,1,0," ++ a.letter ++ ",0"

/- What follows the height of a barcode. -/
def barcodeParameters
    (symbology : Symbology)
    (readable : Bool) :
    Text :=
  if symbology.isTwoDimensional then ",Q,7,A,0,0"
  else if readable then ",Y"
  else ",N"

/- The line of a field. -/
def Field.written :
    Field → Text
  | .text origin font orientation height width alignment data =>
      origin.command ++ "^A" ++ [font] ++
        orientation.letter ++ "," ++ toString height ++ "," ++
        toString width ++ alignmentCommand alignment ++ "^FD" ++ data ++
        "^FS"
  | .rectangle origin width height thickness ink =>
      origin.command ++ "^GB" ++ toString width ++ "," ++
        toString height ++ "," ++ toString thickness ++ "," ++
        ink.letter ++ "^FS"
  | .circle origin radius thickness ink =>
      origin.command ++ "^GC" ++ toString radius ++ "," ++
        toString thickness ++ "," ++ ink.letter ++ "^FS"
  | .barcode origin symbology orientation height readable data =>
      origin.command ++ symbology.zplCommand ++ orientation.letter ++
        "," ++ toString height ++ barcodeParameters symbology readable ++
        "^FD" ++ data ++ "^FS"
  | .image origin total rowBytes =>
      origin.command ++ "^GFA," ++ toString total ++ "," ++
        toString total ++ "," ++ toString rowBytes ++ "," ++ imageData ++
        "^FS"

------------------------------------------------------------
-- Properties in ZPL
------------------------------------------------------------

/- The font for a size. -/
def fontFor
    (size : Double) :
    CodePoint :=
  if Double.le size 8 then '0'
  else if Double.le size 12 then 'A'
  else if Double.le size 16 then 'B'
  else if Double.le size 24 then 'D'
  else 'E'

/- The orientation for a quarter turn; all else is normal. -/
def orientationFor
    (rotation : Value) :
    Except Fault Orientation := do
  rotation.checkLookedUp .rotation
  return (
    if rotation.isInt 90 then .rotated
    else if rotation.isInt 180 then .inverted
    else if rotation.isInt 270 then .bottomUp
    else .normal)

/- The alignment that a value names. -/
def alignmentFor
    (alignment : Value) :
    Option Alignment :=
  let name := Text.lower alignment.toText
  if name = "center" then some .center
  else if name = "right" then some .right
  else none

/- The ink for a colour. -/
def inkFor
    (color : Value) :
    Ink :=
  if isWhite color then .white else .black

/- The height of a font in parts of its size. -/
def heightFactor :
    Double :=
  Double.ofRatio false 12 10

/- The origin at two values. -/
def originAt
    (scale : Scale)
    (x : Value)
    (y : Value) :
    Except Fault Origin := do
  let x ← scale.dots x
  let y ← scale.dots y
  return ⟨x, y⟩

------------------------------------------------------------
-- The Fields of an Element
------------------------------------------------------------

/- The field of a text. -/
def textField
    (scale : Scale)
    (place : Placement)
    (stored : Stored TextProperties) :
    Except Fault Field := do
  let p ← stored.get
  let size ← p.fontSize.doubleOrNaN
  let size := definedOrZero size
  let height := max 10 (size * heightFactor).halfAway
  let width := max 8 size.halfAway
  let orientation ← orientationFor place.rotation
  let origin ← originAt scale place.x place.y
  p.alignment.checkShown .alignment
  p.text.checkShown .zplData
  return .text origin (fontFor size) orientation height width
    (alignmentFor p.alignment) p.text.fieldText

/- The field of a line. -/
def lineField
    (scale : Scale)
    (place : Placement)
    (stored : Stored LineProperties) :
    Except Fault Field := do
  let p ← stored.get
  let thickness ← scale.dots p.thickness
  let origin ← originAt scale place.x place.y
  let width ← scale.dots place.width
  p.color.checkShown .color
  return .rectangle origin width thickness thickness (inkFor p.color)

/-
  The bar along the top edge that stands for rounded corners, for
  a radius above zero.
-/
def cornerBar?
    (scale : Scale)
    (place : Placement)
    (border : Int)
    (ink : Ink)
    (radius : Double) :
    Except Fault (Option Field) :=
  if Double.lt 0 radius then do
    let x ← place.x.doubleOrNaN
    let width ← place.width.doubleOrNaN
    let barWidth := scale.wholeDots (width - 2 * radius)
    let y ← scale.dots place.y
    return some
      (.rectangle ⟨scale.wholeDots (x + radius), y⟩ barWidth border border
        ink)
  else return none

/- The fields of a box. -/
def boxFields
    (scale : Scale)
    (place : Placement)
    (stored : Stored BoxProperties) :
    Except Fault (List Field) := do
  let width ← scale.dots place.width
  let height ← scale.dots place.height
  let p ← stored.get
  let outline ← scale.dots p.borderWidth
  p.borderColor.checkShown .color
  p.fillColor.checkShown .fill
  let ink := inkFor p.borderColor
  let border := if hasFill p.fillColor then min width height else outline
  let origin ← originAt scale place.x place.y
  let radius ← p.cornerRadius.doubleOrNaN
  let bar ← cornerBar? scale place border ink radius
  return .rectangle origin width height border ink :: bar.toList

/- The field of a circle. -/
def circleField
    (scale : Scale)
    (place : Placement)
    (stored : Stored CircleProperties) :
    Except Fault Field := do
  let width ← place.width.doubleOrNaN
  let height ← place.height.doubleOrNaN
  let radius := Double.smaller width height / 2
  let x ← place.x.doubleOrNaN
  let y ← place.y.doubleOrNaN
  let p ← stored.circleProperties
  let thickness ← scale.dots p.borderWidth
  p.borderColor.checkShown .color
  return .circle
    ⟨scale.wholeDots (x + radius), scale.wholeDots (y + radius)⟩
    (scale.wholeDots radius) thickness (inkFor p.borderColor)

/- The field of a barcode, none for an unknown symbology. -/
def barcodeField?
    (scale : Scale)
    (place : Placement)
    (stored : Stored BarcodeProperties) :
    Except Fault (Option Field) := do
  let p ← stored.get
  match Symbology.ofValue? p.symbology with
  | none => return none
  | some symbology => do
      let orientation ← orientationFor place.rotation
      let origin ← originAt scale place.x place.y
      let height ← scale.dots place.height
      p.data.checkShown .zplData
      return some
        (.barcode origin symbology orientation height p.showText.truthy
          p.data.fieldText)

/- The field of an image, none without a source. -/
def imageField?
    (scale : Scale)
    (place : Placement)
    (stored : Stored ImageProperties) :
    Except Fault (Option Field) := do
  let p ← stored.get
  if p.src.truthy then do
    let width ← scale.dots place.width
    let height ← scale.dots place.height
    let rowBytes ← bytesForDots width
    let origin ← originAt scale place.x place.y
    return some (.image origin (width * height) rowBytes)
  else return none

/- The fields of an element; what is not known has none. -/
def fields
    (options : ZplOptions)
    (e : Element) :
    Except Fault (List Field) :=
  let scale := options.scale
  let place := e.toPlacement
  match e.content with
  | .text p => do return [← textField scale place p]
  | .line p => do return [← lineField scale place p]
  | .box p => boxFields scale place p
  | .circle p => do return [← circleField scale place p]
  | .barcode p => do return (← barcodeField? scale place p).toList
  | .image p => do return (← imageField? scale place p).toList
  | .unknown .. => return []
  | .bare => return []

------------------------------------------------------------
-- Opening and Closing
------------------------------------------------------------

/- The line that moves the edge where labels are torn off, if any. -/
def tearOffLines
    (options : ZplOptions) :
    List Text :=
  if options.tearOff.isInt 0 then []
  else ["^TO" ++ options.tearOff.toText]

/- The lines that open a label. -/
def opening
    (options : ZplOptions)
    (canvas : Canvas) :
    Except Fault (List Text) := do
  let width ← options.scale.dots canvas.width
  let height ← options.scale.dots canvas.height
  options.printSpeed.checkShown .opening
  options.density.checkShown .opening
  options.tearOff.checkShown .opening
  let lines : List Text := [
    "^XA",
    "^PW" ++ toString width,
    "^LL" ++ toString height,
    "^PR" ++ options.printSpeed.toText,
    "^MD" ++ options.density.toText]
  return lines ++ tearOffLines options

/- The lines that close a label. -/
def closing :
    List Text :=
  ["^XZ"]

end Zpl

end LabelPress

import LabelPress.Barcode.Symbology
import LabelPress.Label.Canvas
import LabelPress.Printer.Field
import LabelPress.Printer.Options

/-
  Records of the EPL language.

  A label is opened by `N` and its settings and closed by `P` and
  the number of copies.  A record is a letter and its parameters
  joined by commas; printed data is a quoted literal at the end.

  Key definitions include:
    * `Epl.literal`, the quoted literal of a text
    * `Epl.Record`, with `Epl.Record.written`
    * `Epl.records`, the records of an element
    * `Epl.opening`, `Epl.closing`
-/

namespace LabelPress

variable [Machine]

namespace Epl

------------------------------------------------------------
-- Literals
------------------------------------------------------------

/- Set a backslash before each quote and each backslash. -/
def escape :
    Text → Text
  | [] => []
  | c :: cs =>
      if c = Text.backslash ∨ c = Text.doubleQuote then
        Text.backslash :: c :: escape cs
      else c :: escape cs

/- The quoted literal of a text. -/
def literal
    (s : Text) :
    Text :=
  Text.doubleQuote :: escape s ++ [Text.doubleQuote]

------------------------------------------------------------
-- Records
------------------------------------------------------------

/- A record of a label. -/
inductive Record where
  | text
      (x : Int)
      (y : Int)
      (rotation : Int)
      (font : Nat)
      (data : Text)
  | line
      (x : Int)
      (y : Int)
      (width : Int)
      (thickness : Int)
  | box
      (x : Int)
      (y : Int)
      (border : Int)
      (right : Int)
      (bottom : Int)
  | barcode
      (x : Int)
      (y : Int)
      (rotation : Int)
      (symbology : Symbology)
      (height : Int)
      (readable : Bool)
      (data : Text)
  | image
      (x : Int)
      (y : Int)
      (widthBytes : Int)
      (height : Int)
  deriving DecidableEq

/- The letter of the human readable line under a barcode. -/
def readableLetter
    (readable : Bool) :
    Text :=
  if readable then "B" else "N"

/- The letters that start a record. -/
def Record.code :
    Record → Text
  | .text .. => "A"
  | .line .. => "LO"
  | .box .. => "X"
  | .barcode .. => "B"
  | .image .. => "GW"

/- The parameters of a record. -/
def Record.parameters :
    Record → List Text
  | .text x y rotation font data =>
      [toString x, toString y, toString rotation, toString font, "1", "1",
        "N", literal data]
  | .line x y width thickness =>
      [toString x, toString y, toString width, toString thickness]
  | .box x y border right bottom =>
      [toString x, toString y, toString border, toString right,
        toString bottom]
  | .barcode x y rotation symbology height readable data =>
      [toString x, toString y, toString rotation, symbology.eplCode, "2",
        "6", toString height, readableLetter readable, literal data]
  | .image x y widthBytes height =>
      [toString x, toString y, toString widthBytes, toString height,
        imageData]

/- The line of a record. -/
def Record.written
    (r : Record) :
    Text :=
  r.code ++ Text.intercalate "," r.parameters

------------------------------------------------------------
-- Properties in EPL
------------------------------------------------------------

/- The font for a size. -/
def fontFor
    (size : Double) :
    Nat :=
  if Double.le 20 size then 5
  else if Double.le 16 size then 4
  else if Double.le 12 size then 3
  else if Double.le 10 size then 2
  else 1

/- The number of quarter turns of a rotation. -/
def quarterTurns
    (rotation : Value) :
    Except Fault Int := do
  let degrees ← rotation.roundedHalfAway
  return degrees / 90 % 4

------------------------------------------------------------
-- The Records of an Element
------------------------------------------------------------

/- The record of a text. -/
def textRecord
    (scale : Scale)
    (place : Placement)
    (stored : Stored TextProperties) :
    Except Fault Record := do
  let p ← stored.get
  let size ← p.fontSize.doubleOrNaN
  let x ← scale.dots place.x
  let y ← scale.dots place.y
  let rotation ← quarterTurns place.rotation
  p.text.checkShown .eplData
  return .text x y rotation (fontFor (definedOrZero size)) p.text.fieldText

/- The record of a line, at least one dot thick. -/
def lineRecord
    (scale : Scale)
    (place : Placement)
    (stored : Stored LineProperties) :
    Except Fault Record := do
  let p ← stored.get
  let thickness ← scale.dots p.thickness
  let x ← scale.dots place.x
  let y ← scale.dots place.y
  let width ← scale.dots place.width
  return .line x y width (max 1 thickness)

/- The record of a box, between two opposite corners. -/
def boxRecord
    (scale : Scale)
    (place : Placement)
    (stored : Stored BoxProperties) :
    Except Fault Record := do
  let x ← place.x.doubleOrNaN
  let y ← place.y.doubleOrNaN
  let outline ← stored.boxBorder
  let border ← scale.dots outline
  let width ← place.width.doubleOrNaN
  let height ← place.height.doubleOrNaN
  return .box (scale.wholeDots x) (scale.wholeDots y) border
    (scale.wholeDots (x + width)) (scale.wholeDots (y + height))

/- The record of a barcode, none for an unknown symbology. -/
def barcodeRecord?
    (scale : Scale)
    (place : Placement)
    (stored : Stored BarcodeProperties) :
    Except Fault (Option Record) := do
  let p ← stored.get
  match Symbology.ofValue? p.symbology with
  | none => return none
  | some symbology => do
      let x ← scale.dots place.x
      let y ← scale.dots place.y
      let rotation ← quarterTurns place.rotation
      let height ← scale.dots place.height
      p.data.checkShown .eplData
      return some
        (.barcode x y rotation symbology height p.showText.truthy
          p.data.fieldText)

/- The record of an image, none without a source. -/
def imageRecord?
    (scale : Scale)
    (place : Placement)
    (stored : Stored ImageProperties) :
    Except Fault (Option Record) := do
  let p ← stored.get
  if p.src.truthy then do
    let width ← scale.dots place.width
    let widthBytes ← bytesForDots width
    let x ← scale.dots place.x
    let y ← scale.dots place.y
    let height ← scale.dots place.height
    return some (.image x y widthBytes height)
  else return none

/- The records of an element; the language has no circles. -/
def records
    (options : EplOptions)
    (e : Element) :
    Except Fault (List Record) :=
  let scale := options.scale
  let place := e.toPlacement
  match e.content with
  | .text p => do return [← textRecord scale place p]
  | .line p => do return [← lineRecord scale place p]
  | .box p => do return [← boxRecord scale place p]
  | .circle _ => return []
  | .barcode p => do return (← barcodeRecord? scale place p).toList
  | .image p => do return (← imageRecord? scale place p).toList
  | .unknown .. => return []
  | .bare => return []

------------------------------------------------------------
-- Opening and Closing
------------------------------------------------------------

/- The lines that open a label. -/
def opening
    (options : EplOptions)
    (canvas : Canvas) :
    Except Fault (List Text) := do
  options.speed.checkShown .opening
  options.density.checkShown .opening
  let width ← options.scale.dots canvas.width
  let height ← options.scale.dots canvas.height
  options.gap.checkShown .opening
  return [
    "N",
    "S" ++ options.speed.toText,
    "D" ++ options.density.toText,
    "ZT",
    "q" ++ toString width,
    "Q" ++ toString height ++ "," ++ options.gap.toText]

/- The lines that close a label. -/
def closing
    (options : EplOptions) :
    List Text :=
  ["P" ++ options.copies.toText]

end Epl

end LabelPress

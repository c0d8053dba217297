import LabelPress.Barcode.Symbology
import LabelPress.Calendar.Iso
import LabelPress.Label.Canvas
import LabelPress.Printer.Field
import LabelPress.Printer.Options

/-
  Records of the DPL language.

  Only texts and barcodes have records.  A record is its type's
  code, its positions in four digits each, and the printed data
  up to the end of the line.

  Key definitions include:
    * `Dpl.Record`, with `Dpl.Record.written`
    * `Dpl.records`, the records of an element
    * `Dpl.opening`, `Dpl.closing`
-/

namespace LabelPress

variable [Machine]

namespace Dpl

------------------------------------------------------------
-- Records
------------------------------------------------------------

/- A record of a label. -/
inductive Record where
  | text
      (x : Nat)
      (y : Nat)
      (data : Text)
  | barcode
      (x : Nat)
      (y : Nat)
      (height : Nat)
      (data : Text)
  deriving DecidableEq

/- The code of text records. -/
def textCode :
    Text :=
  "1911A0100000000"

/- The code of barcode records. -/
def barcodeCode :
    Text :=
  "1231100000000"

/- A position in four digits. -/
def position
    (n : Nat) :
    Text :=
  paddedDigits 4 n

/- The line of a record. -/
def Record.written :
    Record → Text
  | .text x y data => textCode ++ position x ++ position y ++ data
  | .barcode x y height data =>
      barcodeCode ++ position x ++ position y ++ position height ++ data

------------------------------------------------------------
-- The Records of an Element
------------------------------------------------------------

/- The largest position. -/
def maxPosition :
    Nat :=
  9999

/- A number of dots cut to the range of positions. -/
def clamped
    (dots : Int) :
    Nat :=
  min dots.toNat maxPosition

/- A value as a position. -/
def positionOf
    (scale : Scale)
    (v : Value) :
    Except Fault Nat := do
  let dots ← scale.dots v
  return clamped dots

/- The record of a text. -/
def textRecord
    (scale : Scale)
    (place : Placement)
    (stored : Stored TextProperties) :
    Except Fault Record := do
  let x ← positionOf scale place.x
  let y ← positionOf scale place.y
  let p ← stored.get
  p.text.checkShown .dplData
  return .text x y p.text.fieldText

/- The record of a barcode, none for an unknown symbology. -/
def barcodeRecord?
    (scale : Scale)
    (place : Placement)
    (stored : Stored BarcodeProperties) :
    Except Fault (Option Record) := do
  let p ← stored.get
  match Symbology.ofValue? p.symbology with
  | none => return none
  | some _ => do
      let x ← positionOf scale place.x
      let y ← positionOf scale place.y
      let height ← positionOf scale place.height
      p.data.checkShown .dplData
      return some (.barcode x y height p.data.fieldText)

/- The records of an element; other types than two have none. -/
def records
    (options : DplOptions)
    (e : Element) :
    Except Fault (List Record) :=
  let scale := options.scale
  let place := e.toPlacement
  match e.content with
  | .text p => do return [← textRecord scale place p]
  | .barcode p => do return (← barcodeRecord? scale place p).toList
  | _ => return []

------------------------------------------------------------
-- Opening and Closing
------------------------------------------------------------

/- The control character that starts a command. -/
def startOfText :
    CodePoint :=
  CodePoint.ofNat 2

/- The lines that open a label. -/
def opening
    (options : DplOptions)
    (canvas : Canvas) :
    Except Fault (List Text) := do
  let height ← options.scale.dots canvas.height
  let width ← options.scale.dots canvas.width
  options.quantity.checkShown .opening
  return [
    [startOfText, 'L'],
    "H" ++ toString height,
    "W" ++ toString width,
    "Q" ++ options.quantity.toText]

/- The lines that close a label. -/
def closing :
    List Text :=
  ["E"]

end Dpl

end LabelPress

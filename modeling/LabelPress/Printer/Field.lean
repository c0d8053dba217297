import LabelPress.Label.Element
import LabelPress.Text.Case
import LabelPress.Value.Display
import LabelPress.Value.Number

/-
  What the printer languages have in common.

  Colours are told apart only as far as the languages can print
  them, and the data of an image is left to be filled in.

  Key definitions include:
    * `isWhite`, `hasFill`
    * `imageData`
    * `bytesForDots`
    * `Stored.circleProperties`, `Stored.boxBorder`
-/

namespace LabelPress

/- The place where the data of an image goes. -/
def imageData :
    Text :=
  "<IMAGE_DATA>"

/- A colour in small letters without blanks. -/
def colorName
    (v : Value) :
    Text :=
  Text.lower (Text.trim (if v.truthy then v.toText else ""))

/- The spellings of white. -/
def whiteNames :
    List Text :=
  ["#ffffff", "#fff", "white"]

/- The colours that leave an area as it is. -/
def unfilledNames :
    List Text :=
  ["", "transparent", "none"]

/- Whether a colour is white. -/
def isWhite
    (color : Value) :
    Bool :=
  whiteNames.contains (colorName color)

/- Whether a colour fills an area. -/
def hasFill
    (color : Value) :
    Bool :=
  !(unfilledNames.contains (colorName color))

/- The bytes that hold a row of dots, halves away from zero. -/
def bytesForDots
    (dots : Int) :
    Except Fault Int :=
  match Double.ofQuotient? dots 8 with
  | some x => .ok x.halfAway
  | none => .error .integerTooLarge

/- A number with undefined read as zero. -/
def definedOrZero
    (x : Double) :
    Double :=
  if x.isNaN then 0 else x

------------------------------------------------------------
-- Borders
------------------------------------------------------------

namespace Stored

/- The properties of a circle, which those of a box have too. -/
def circleProperties
    (stored : Stored CircleProperties) :
    Except Fault CircleProperties :=
  match stored with
  | .foreign (.record (.properties .box) fields) =>
      .ok (CircleProperties.ofFields fields)
  | _ => stored.get

/- The border of a box, which a circle has too. -/
def boxBorder
    (stored : Stored BoxProperties) :
    Except Fault Value :=
  match stored with
  | .foreign (.record (.properties .circle) fields) =>
      .ok (CircleProperties.ofFields fields).borderWidth
  | _ => do
      let p ← stored.get
      return p.borderWidth

end Stored

end LabelPress

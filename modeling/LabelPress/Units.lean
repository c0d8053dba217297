import LabelPress.Text.Case
import LabelPress.Value.Display
import LabelPress.Value.Number

/-
  Length units and device dots.

  A printer places everything on a grid of dots.  Every other
  unit is a fixed part of an inch, and a resolution in dots per
  inch takes it to the grid and back.  Conversion between two
  units goes by way of dots.

  Key definitions include:
    * `LengthUnit`, with `LengthUnit.ofValue`
    * `resolutionOf`
    * `LengthUnit.toDots`, `LengthUnit.fromDots`
    * `valueToDots`, `dotsToUnit`, `convertLength`
-/

namespace LabelPress

variable [Machine]

------------------------------------------------------------
-- Units
------------------------------------------------------------

/- A unit of length on a label. -/
inductive LengthUnit where
  | dots
  | px
  | mm
  | inch
  | pt
  deriving DecidableEq

namespace LengthUnit

/- The canonical spelling of a unit. -/
def name :
    LengthUnit → Text
  | dots => "dots"
  | px => "px"
  | mm => "mm"
  | inch => "in"
  | pt => "pt"

/- All units, by the order of their spellings. -/
def all :
    List LengthUnit :=
  [dots, inch, mm, pt, px]

/- The canonical spellings in order. -/
def names :
    List Text :=
  all.map name

/- The spellings that stand for a canonical one. -/
def aliases :
    List (Text × LengthUnit) :=
  [("dot", dots), ("canvas", dots), ("pixel", px), ("pixels", px),
    ("inch", inch), ("inches", inch), ("point", pt), ("points", pt)]

/- The unit of a spelling in lower case without blanks. -/
def ofName?
    (s : Text) :
    Option LengthUnit :=
  match aliases.lookup s with
  | some u => some u
  | none => all.find? fun u => u.name == s

/- The unit that a value names; a value that is absent means dots. -/
def ofValue
    (v : Value) :
    Except Fault LengthUnit := do
  v.checkShown .unit
  let key := if v.truthy then v.toText else "dots"
  match ofName? (Text.lower (Text.trim key)) with
  | some u => return u
  | none => do
      v.checkShown .unitComplaint
      throw (.unknownUnit v.toText names)

/- The length of a unit in inches; a dot has none of its own. -/
def inches? :
    LengthUnit → Option Double
  | dots => none
  | px => some (1 / 96)
  | mm => some (1 / Double.ofRatio false 254 10)
  | inch => some 1
  | pt => some (1 / 72)

/- A length in dots. -/
def toDots
    (unit : LengthUnit)
    (resolution : Double)
    (x : Double) :
    Double :=
  match unit.inches? with
  | none => x
  | some inches => x * inches * resolution

/- A number of dots as a length. -/
def fromDots
    (unit : LengthUnit)
    (resolution : Double)
    (x : Double) :
    Double :=
  match unit.inches? with
  | none => x
  | some inches => x / resolution / inches

end LengthUnit

------------------------------------------------------------
-- Conversions of Values
------------------------------------------------------------

/- The default resolution in dots per inch. -/
def defaultResolution :
    Double :=
  203

/-
  A resolution, which must be above zero.  The complaint needs no
  check, since whatever has a double can be shown.
-/
def resolutionOf
    (v : Value) :
    Except Fault Double := do
  let x ← v.toDouble
  if Double.lt 0 x then return x
  else throw (.resolutionNotPositive v.inspected)

/- A value in some unit as dots. -/
def valueToDots
    (value : Value)
    (unit : Value)
    (dpi : Value) :
    Except Fault Double := do
  let u ← LengthUnit.ofValue unit
  let resolution ← resolutionOf dpi
  let x ← value.toDouble
  return u.toDots resolution x

/- A number of dots in some unit. -/
def dotsToUnit
    (value : Value)
    (unit : Value)
    (dpi : Value) :
    Except Fault Double := do
  let u ← LengthUnit.ofValue unit
  let resolution ← resolutionOf dpi
  let x ← value.toDouble
  return u.fromDots resolution x

/- A value taken from one unit to another. -/
def convertLength
    (value : Value)
    (source : Value)
    (target : Value)
    (dpi : Value) :
    Except Fault Double := do
  let x ← valueToDots value source dpi
  dotsToUnit (.double x) target dpi

end LabelPress

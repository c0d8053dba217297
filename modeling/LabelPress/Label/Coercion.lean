import LabelPress.Label.Element
import LabelPress.Label.PropertyKey
import LabelPress.Outcome
import LabelPress.Value.Display
import LabelPress.Value.Number

/-
  Elements from label data.

  An object becomes an element: its type is trimmed and put into
  small letters, its coordinates become doubles, its sizes are
  not below zero, its rotation is a quarter turn, and its
  properties are read by the normal form of their keys, the last
  key of a form deciding.  The type and the id may be values of
  any kind, but must be ones that can be shown.

  Key definitions include:
    * `quarterTurn`
    * `Position`
    * `TextProperties.set?`, ..., `BarcodeProperties.set?`
    * `readProperties`
    * `Element.ofFields`
    * `Entry.coerce?`, `coerceEntries`
-/

namespace LabelPress

variable [Machine]

------------------------------------------------------------
-- Rotation
------------------------------------------------------------

/- The quarter turn nearest to a number of degrees. -/
def nearestQuarter
    (degrees : Double) :
    Int :=
  if degrees.isFinite then
    (degrees / 90).nearestEven?.getD 0 % 4 * 90
  else 0

/- The quarter turn nearest to a value in degrees. -/
def quarterTurn
    (v : Value) :
    Except Fault Int := do
  let degrees ← v.doubleOr 0
  return nearestQuarter degrees

------------------------------------------------------------
-- Property Records
------------------------------------------------------------

/- Set the property of a normal form, if there is one. -/
def TextProperties.set?
    (p : TextProperties)
    (form : Text)
    (v : Value) :
    Option TextProperties :=
  if form = "text" then some { p with text := v }
  else if form = "font_size" then some { p with fontSize := v }
  else if form = "font_weight" then some { p with fontWeight := v }
  else if form = "font_family" then some { p with fontFamily := v }
  else if form = "color" then some { p with color := v }
  else if form = "alignment" then some { p with alignment := v }
  else none

/- Set the property of a normal form, if there is one. -/
def LineProperties.set?
    (p : LineProperties)
    (form : Text)
    (v : Value) :
    Option LineProperties :=
  if form = "thickness" then some { p with thickness := v }
  else if form = "color" then some { p with color := v }
  else if form = "style" then some { p with style := v }
  else none

/- Set the property of a normal form, if there is one. -/
def BoxProperties.set?
    (p : BoxProperties)
    (form : Text)
    (v : Value) :
    Option BoxProperties :=
  if form = "border_width" then some { p with borderWidth := v }
  else if form = "border_color" then some { p with borderColor := v }
  else if form = "fill_color" then some { p with fillColor := v }
  else if form = "corner_radius" then some { p with cornerRadius := v }
  else none

/- Set the property of a normal form, if there is one. -/
def CircleProperties.set?
    (p : CircleProperties)
    (form : Text)
    (v : Value) :
    Option CircleProperties :=
  if form = "border_width" then some { p with borderWidth := v }
  else if form = "border_color" then some { p with borderColor := v }
  else if form = "fill_color" then some { p with fillColor := v }
  else none

/- Set the property of a normal form, if there is one. -/
def ImageProperties.set?
    (p : ImageProperties)
    (form : Text)
    (v : Value) :
    Option ImageProperties :=
  if form = "src" then some { p with src := v }
  else if form = "alt" then some { p with alt := v }
  else if form = "fit" then some { p with fit := v }
  else if form = "opacity" then some { p with opacity := v }
  else none

/-
  Set the property of a normal form, if there is one.  The type
  of a barcode is its symbology.
-/
def BarcodeProperties.set?
    (p : BarcodeProperties)
    (form : Text)
    (v : Value) :
    Option BarcodeProperties :=
  if form = "data" then some { p with data := v }
  else if form = "symbology" ∨ form = "type" then
    some { p with symbology := v }
  else if form = "show_text" then some { p with showText := v }
  else if form = "text_position" then some { p with textPosition := v }
  else none

/-
  Read fields into a record from left to right.  A key whose
  normal form is no property is noticed and passed over.
-/
def readProperties
    {α : Type}
    (set? : α → Text → Value → Option α)
    (elementType : Text)
    (record : α) :
    Fields → Outcome α
  | [] => .ok record
  | (key, v) :: rest =>
      match set? record (PropertyKey.normalForm key) v with
      | some record => readProperties set? elementType record rest
      | none => do
          Outcome.note (.propertyIgnored elementType key)
          readProperties set? elementType record rest

------------------------------------------------------------
-- Elements
------------------------------------------------------------

/- The value that names the type of an object. -/
def typeValue
    (fields : Fields) :
    Value :=
  (fields.get? "type").getD (.text "")

/- The type that an object names. -/
def elementTypeOf
    (fields : Fields) :
    Text :=
  Text.lower (Text.trim (typeValue fields).toText)

/- The properties of an object; what is no object has none. -/
def propertyFields
    (fields : Fields) :
    Fields :=
  match fields.get? "properties" with
  | some (.object properties) => properties
  | _ => []

/-
  The position of an object: its place in a list, or a value that
  is given for it.
-/
inductive Position where
  | index (n : Nat)
  | given (v : Value)

namespace Position

/- A position as a text. -/
def text :
    Position → Text
  | index n => (Value.int n).toText
  | given v => v.toText

/- Check that a position can be shown; a place in a list can. -/
def checkShown :
    Position → Except Fault Unit
  | index _ => .ok ()
  | given v => v.checkShown .position

end Position

/- Whether an object names no id. -/
def lacksId
    (fields : Fields) :
    Bool :=
  let v := Value.fieldOf fields "id"
  v.isNull || v.isEmptyText

/- The id that an object names, or one from its position. -/
def elementId
    (fields : Fields)
    (position : Position) :
    Text :=
  if lacksId fields then "element_" ++ position.text
  else (Value.fieldOf fields "id").toText

/- Check that the type and the id of an object can be shown. -/
def checkNames
    (fields : Fields)
    (position : Position) :
    Except Fault Unit := do
  (typeValue fields).checkShown .elementType
  if lacksId fields then position.checkShown
  else (Value.fieldOf fields "id").checkShown .elementId

/- The value that decides an object's depth. -/
def depthOf
    (fields : Fields) :
    Value :=
  match fields.get? "zIndex" with
  | some v => v
  | none => Value.fieldOf fields "z_index"

/- The placement that an object describes. -/
def Placement.ofFields
    (fields : Fields)
    (position : Position) :
    Except Fault Placement := do
  let x ← (Value.fieldOf fields "x").doubleOr 0
  let y ← (Value.fieldOf fields "y").doubleOr 0
  let width ← (Value.fieldOf fields "width").doubleOr 0
  let height ← (Value.fieldOf fields "height").doubleOr 0
  let rotation ← quarterTurn (Value.fieldOf fields "rotation")
  let depth ← (depthOf fields).wholePart
  return {
    id := .text (elementId fields position)
    x := .double x
    y := .double y
    width := .double (Double.larger 0 width)
    height := .double (Double.larger 0 height)
    rotation := .int rotation
    zIndex := .int depth
  }

/- The content of a type with the given properties. -/
def Content.ofFields
    (id : Text)
    (elementType : Text)
    (properties : Fields) :
    Outcome Content :=
  match ElementType.ofName? elementType with
  | some .text => do
      let p ← readProperties TextProperties.set? elementType {} properties
      return .text (.record p)
  | some .line => do
      let p ← readProperties LineProperties.set? elementType {} properties
      return .line (.record p)
  | some .box => do
      let p ← readProperties BoxProperties.set? elementType {} properties
      return .box (.record p)
  | some .circle => do
      let p ←
        readProperties CircleProperties.set? elementType {} properties
      return .circle (.record p)
  | some .image => do
      let p ←
        readProperties ImageProperties.set? elementType {} properties
      return .image (.record p)
  | some .barcode => do
      let p ←
        readProperties BarcodeProperties.set? elementType {} properties
      return .barcode (.record p)
  | none => do
      Outcome.note (.unknownType id elementType)
      return .unknown (.text elementType) (.object properties)

/- The element that an object describes at a position. -/
def Element.ofFields
    (fields : Fields)
    (position : Position) :
    Outcome Element := do
  checkNames fields position
  let placement ← Placement.ofFields fields position
  let content ←
    Content.ofFields (elementId fields position) (elementTypeOf fields)
      (propertyFields fields)
  return { placement with content }

------------------------------------------------------------
-- Entries
------------------------------------------------------------

/-
  The element of an entry at a position.  An entry that is
  neither an element nor an object is noticed and has none.
-/
def Entry.coerce?
    (entry : Entry)
    (index : Nat) :
    Outcome (Option Element) :=
  match entry with
  | .element e => .ok (some e)
  | .object fields => do
      let e ← Element.ofFields fields (.index index)
      return some e
  | .other kind => do
      Outcome.note (.entrySkipped index kind)
      return none

/- The elements of entries, the first of which has a position. -/
def coerceFrom
    (index : Nat) :
    List Entry → Outcome (List Element)
  | [] => .ok []
  | entry :: rest => do
      let e? ← entry.coerce? index
      let es ← coerceFrom (index + 1) rest
      return e?.toList ++ es

/- The elements of entries. -/
def coerceEntries
    (entries : List Entry) :
    Outcome (List Element) :=
  coerceFrom 0 entries

end LabelPress

import LabelPress.Value.Stored

/-
  The elements of a label.

  An element has a placement and a content.  The content of a
  known type is a record of properties, or some value that stands
  where the record should.  An element of unknown type keeps its
  properties as they came, and a bare element has none.

  Key definitions include:
    * `Placement`
    * `TextProperties`, ..., `BarcodeProperties`
    * `Content`
    * `Element`, with `Element.toValue` and `Element.ofValue?`
    * `Entry`, with `Entry.ofValue`
-/

namespace LabelPress

------------------------------------------------------------
-- Properties
------------------------------------------------------------

/- The properties of a text. -/
structure TextProperties where
  text : Value := .text ""
  fontSize : Value := .int 12
  fontWeight : Value := .text "normal"
  fontFamily : Value := .text "Arial"
  color : Value := .text "#000000"
  alignment : Value := .text "left"

/- The properties of a line. -/
structure LineProperties where
  thickness : Value := .int 2
  color : Value := .text "#000000"
  style : Value := .text "solid"

/- The properties of a box. -/
structure BoxProperties where
  borderWidth : Value := .int 2
  borderColor : Value := .text "#000000"
  fillColor : Value := .text "transparent"
  cornerRadius : Value := .int 0

/- The properties of a circle. -/
structure CircleProperties where
  borderWidth : Value := .int 2
  borderColor : Value := .text "#000000"
  fillColor : Value := .text "transparent"

/- The properties of an image. -/
structure ImageProperties where
  src : Value := .text ""
  alt : Value := .text ""
  fit : Value := .text "contain"
  opacity : Value := .double 1

/- The properties of a barcode. -/
structure BarcodeProperties where
  data : Value := .text ""
  symbology : Value := .text "CODE128"
  showText : Value := .bool true
  textPosition : Value := .text "bottom"

------------------------------------------------------------
-- Properties as Fields
------------------------------------------------------------

/- The value under a key, or a default. -/
def Fields.getOr
    (fields : Fields)
    (key : Text)
    (default : Value) :
    Value :=
  (fields.get? key).getD default

/- The properties of a text in order. -/
def TextProperties.fields
    (p : TextProperties) :
    Fields :=
  [("text", p.text), ("font_size", p.fontSize),
    ("font_weight", p.fontWeight), ("font_family", p.fontFamily),
    ("color", p.color), ("alignment", p.alignment)]

/- The properties of a text that fields give; others keep defaults. -/
def TextProperties.ofFields
    (fields : Fields) :
    TextProperties :=
  let d : TextProperties := {}
  { text := fields.getOr "text" d.text
    fontSize := fields.getOr "font_size" d.fontSize
    fontWeight := fields.getOr "font_weight" d.fontWeight
    fontFamily := fields.getOr "font_family" d.fontFamily
    color := fields.getOr "color" d.color
    alignment := fields.getOr "alignment" d.alignment }

/- The properties of a line in order. -/
def LineProperties.fields
    (p : LineProperties) :
    Fields :=
  [("thickness", p.thickness), ("color", p.color), ("style", p.style)]

/- The properties of a line that fields give; others keep defaults. -/
def LineProperties.ofFields
    (fields : Fields) :
    LineProperties :=
  let d : LineProperties := {}
  { thickness := fields.getOr "thickness" d.thickness
    color := fields.getOr "color" d.color
    style := fields.getOr "style" d.style }

/- The properties of a box in order. -/
def BoxProperties.fields
    (p : BoxProperties) :
    Fields :=
  [("border_width", p.borderWidth), ("border_color", p.borderColor),
    ("fill_color", p.fillColor), ("corner_radius", p.cornerRadius)]

/- The properties of a box that fields give; others keep defaults. -/
def BoxProperties.ofFields
    (fields : Fields) :
    BoxProperties :=
  let d : BoxProperties := {}
  { borderWidth := fields.getOr "border_width" d.borderWidth
    borderColor := fields.getOr "border_color" d.borderColor
    fillColor := fields.getOr "fill_color" d.fillColor
    cornerRadius := fields.getOr "corner_radius" d.cornerRadius }

/- The properties of a circle in order. -/
def CircleProperties.fields
    (p : CircleProperties) :
    Fields :=
  [("border_width", p.borderWidth), ("border_color", p.borderColor),
    ("fill_color", p.fillColor)]

/- The properties of a circle that fields give; others keep defaults. -/
def CircleProperties.ofFields
    (fields : Fields) :
    CircleProperties :=
  let d : CircleProperties := {}
  { borderWidth := fields.getOr "border_width" d.borderWidth
    borderColor := fields.getOr "border_color" d.borderColor
    fillColor := fields.getOr "fill_color" d.fillColor }

/- The properties of an image in order. -/
def ImageProperties.fields
    (p : ImageProperties) :
    Fields :=
  [("src", p.src), ("alt", p.alt), ("fit", p.fit),
    ("opacity", p.opacity)]

/- The properties of an image that fields give; others keep defaults. -/
def ImageProperties.ofFields
    (fields : Fields) :
    ImageProperties :=
  let d : ImageProperties := {}
  { src := fields.getOr "src" d.src
    alt := fields.getOr "alt" d.alt
    fit := fields.getOr "fit" d.fit
    opacity := fields.getOr "opacity" d.opacity }

/- The properties of a barcode in order. -/
def BarcodeProperties.fields
    (p : BarcodeProperties) :
    Fields :=
  [("data", p.data), ("symbology", p.symbology),
    ("show_text", p.showText), ("text_position", p.textPosition)]

/- The properties of a barcode that fields give; others keep defaults. -/
def BarcodeProperties.ofFields
    (fields : Fields) :
    BarcodeProperties :=
  let d : BarcodeProperties := {}
  { data := fields.getOr "data" d.data
    symbology := fields.getOr "symbology" d.symbology
    showText := fields.getOr "show_text" d.showText
    textPosition := fields.getOr "text_position" d.textPosition }

------------------------------------------------------------
-- Elements
------------------------------------------------------------

/- Where an element is and what it is called. -/
structure Placement where
  id : Value := .text ""
  x : Value := .double 0
  y : Value := .double 0
  width : Value := .double 0
  height : Value := .double 0
  rotation : Value := .int 0
  zIndex : Value := .int 0

/- What an element shows. -/
inductive Content where
  | text (properties : Stored TextProperties)
  | line (properties : Stored LineProperties)
  | box (properties : Stored BoxProperties)
  | circle (properties : Stored CircleProperties)
  | image (properties : Stored ImageProperties)
  | barcode (properties : Stored BarcodeProperties)
  | unknown (elementType : Value) (properties : Value)
  | bare

/- An element of a label. -/
structure Element extends Placement where
  content : Content

------------------------------------------------------------
-- Elements as Values
------------------------------------------------------------

/- A stored record of properties as a value. -/
def Stored.propertiesValue
    {α : Type}
    (type : ElementType)
    (fields : α → Fields) :
    Stored α → Value
  | .record p => .record (.properties type) (fields p)
  | .foreign v => v

/- What a value stands for where a record of properties belongs. -/
def Stored.ofPropertiesValue
    {α : Type}
    (type : ElementType)
    (ofFields : Fields → α)
    (v : Value) :
    Stored α :=
  match v with
  | .record (.properties t) fields =>
      if t = type then .record (ofFields fields) else .foreign v
  | v => .foreign v

/- The fields of a placement in order. -/
def Placement.fields
    (p : Placement) :
    Fields :=
  [("id", p.id), ("x", p.x), ("y", p.y), ("width", p.width),
    ("height", p.height), ("rotation", p.rotation), ("z_index", p.zIndex)]

/- The placement that fields give; others keep their defaults. -/
def Placement.ofRecord
    (fields : Fields) :
    Placement :=
  let d : Placement := {}
  { id := fields.getOr "id" d.id
    x := fields.getOr "x" d.x
    y := fields.getOr "y" d.y
    width := fields.getOr "width" d.width
    height := fields.getOr "height" d.height
    rotation := fields.getOr "rotation" d.rotation
    zIndex := fields.getOr "z_index" d.zIndex }

/- The kind of the record that an element with some content is. -/
def Content.recordKind :
    Content → RecordKind
  | .text _ => .element .text
  | .line _ => .element .line
  | .box _ => .element .box
  | .circle _ => .element .circle
  | .image _ => .element .image
  | .barcode _ => .element .barcode
  | .unknown .. => .unknownElement
  | .bare => .bareElement

/- The fields of a content in order. -/
def Content.fields :
    Content → Fields
  | .text p =>
      [("properties", p.propertiesValue .text TextProperties.fields)]
  | .line p =>
      [("properties", p.propertiesValue .line LineProperties.fields)]
  | .box p =>
      [("properties", p.propertiesValue .box BoxProperties.fields)]
  | .circle p =>
      [("properties", p.propertiesValue .circle CircleProperties.fields)]
  | .image p =>
      [("properties", p.propertiesValue .image ImageProperties.fields)]
  | .barcode p =>
      [("properties", p.propertiesValue .barcode BarcodeProperties.fields)]
  | .unknown elementType properties =>
      [("element_type", elementType), ("properties", properties)]
  | .bare => []

/- The content of a type with a value as its properties. -/
def Content.ofType
    (type : ElementType)
    (properties : Value) :
    Content :=
  match type with
  | .text =>
      .text (.ofPropertiesValue .text TextProperties.ofFields properties)
  | .line =>
      .line (.ofPropertiesValue .line LineProperties.ofFields properties)
  | .box =>
      .box (.ofPropertiesValue .box BoxProperties.ofFields properties)
  | .circle =>
      .circle
        (.ofPropertiesValue .circle CircleProperties.ofFields properties)
  | .image =>
      .image
        (.ofPropertiesValue .image ImageProperties.ofFields properties)
  | .barcode =>
      .barcode
        (.ofPropertiesValue .barcode BarcodeProperties.ofFields properties)

/- The content of an element record; nothing for other kinds. -/
def Content.ofRecord?
    (kind : RecordKind)
    (fields : Fields) :
    Option Content :=
  match kind with
  | .element type =>
      some
        (Content.ofType type
          (fields.getOr "properties" (.record (.properties type) [])))
  | .unknownElement =>
      some
        (.unknown (fields.getOr "element_type" (.text ""))
          (fields.getOr "properties" (.object [])))
  | .bareElement => some .bare
  | _ => none

namespace Element

/- An element as a value. -/
def toValue
    (e : Element) :
    Value :=
  .record e.content.recordKind
    (e.toPlacement.fields ++ e.content.fields)

/- The element that a value is, if it is one. -/
def ofValue? :
    Value → Option Element
  | .record kind fields => do
      let content ← Content.ofRecord? kind fields
      some { Placement.ofRecord fields with content }
  | _ => none

end Element

------------------------------------------------------------
-- Entries
------------------------------------------------------------

/-
  An entry of an element list: an element, an object that may
  describe one, or a thing of some other kind.
-/
inductive Entry where
  | element (e : Element)
  | object (fields : Fields)
  | other (kind : Text)

/- What a value is as an entry. -/
def Entry.ofValue
    (v : Value) :
    Entry :=
  match v, Element.ofValue? v with
  | .object fields, _ => .object fields
  | _, some e => .element e
  | v, none => .other v.kindName

/- What a list of entries is given as. -/
inductive EntrySource where
  | entries (list : List Entry)
  | data (v : Value)

/- The entries in order; a value must be one that can be walked. -/
def EntrySource.entries? :
    EntrySource → Except Fault (List Entry)
  | .entries list => .ok list
  | .data v =>
      match v.items? with
      | some items => .ok (items.map Entry.ofValue)
      | none => .error .wrongKind

end LabelPress

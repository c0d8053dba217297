import LabelPress.Value.Number

/-
  The canvas that a label is laid out on.

  Key definitions include:
    * `Canvas`, with `Canvas.toValue`
    * `CanvasSource` and `Canvas.ofSource`
    * `Canvas.commonSizes`
-/

namespace LabelPress

/- A canvas; its sizes may be any values. -/
structure Canvas where
  width : Value
  height : Value

/- What a canvas is given as. -/
inductive CanvasSource where
  | canvas (c : Canvas)
  | data (v : Value)

namespace Canvas

/- The width of a canvas that names none. -/
def defaultWidth :
    Double :=
  400

/- The height of a canvas that names none. -/
def defaultHeight :
    Double :=
  300

/- The canvas that is used when none is given. -/
def standard :
    Canvas :=
  ⟨.double defaultWidth, .double defaultHeight⟩

/- The canvas with the sizes named by fields. -/
def ofFields
    (fields : Fields) :
    Except Fault Canvas := do
  let width ← (Value.fieldOf fields "width").doubleOr defaultWidth
  let height ← (Value.fieldOf fields "height").doubleOr defaultHeight
  return ⟨.double width, .double height⟩

/- A canvas as a value. -/
def toValue
    (c : Canvas) :
    Value :=
  .record .canvas [("width", c.width), ("height", c.height)]

/- The canvas with the fields of a record; others keep defaults. -/
def ofRecord
    (fields : Fields) :
    Canvas :=
  ⟨(fields.get? "width").getD standard.width,
    (fields.get? "height").getD standard.height⟩

/- The canvas that a value is or describes. -/
def ofValue :
    Value → Except Fault Canvas
  | .null => .ok standard
  | .object fields => ofFields fields
  | .record .canvas fields => .ok (ofRecord fields)
  | _ => .error .missingPart

/- The canvas that is given. -/
def ofSource :
    CanvasSource → Except Fault Canvas
  | .canvas c => .ok c
  | .data v => ofValue v

/- A canvas of whole sizes. -/
def ofSize
    (width : Nat)
    (height : Nat) :
    Canvas :=
  ⟨.int width, .int height⟩

/- The label sizes that have a name. -/
def commonSizes :
    List (Text × Canvas) :=
  [("2x1", ofSize 200 100), ("3x1", ofSize 300 100),
    ("4x2", ofSize 400 200), ("4x3", ofSize 400 300),
    ("4x6", ofSize 400 600), ("6x4", ofSize 600 400)]

end Canvas

end LabelPress

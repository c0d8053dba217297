import LabelPress.Files
import LabelPress.Json.Reader
import LabelPress.Label.Canvas
import LabelPress.Label.Coercion

/-
  Label documents.

  A document is an object with a list of elements and possibly a
  canvas.  Its shape is checked from the outside in: kinds first,
  then required keys, then the known keys in a fixed order.  The
  first problem is reported with its path.

  Key definitions include:
    * `Kind`, with `Kind.holds`
    * `Shape.size`, `Shape.element`, `Shape.document`
    * `Document`, with `Document.ofValue`
    * `Document.load`
-/

namespace LabelPress

variable [Machine]

------------------------------------------------------------
-- Kinds
------------------------------------------------------------

/- A kind of value in a document. -/
inductive Kind where
  | null
  | string
  | number
  | integer
  | array
  | object
  deriving DecidableEq

namespace Kind

/- The name of a kind. -/
def name :
    Kind → Text
  | null => "null"
  | string => "string"
  | number => "number"
  | integer => "integer"
  | array => "array"
  | object => "object"

/-
  Whether a value is of a kind.  A double that is whole counts as
  an integer, and truth values are no numbers.
-/
def holds :
    Kind → Value → Bool
  | null, .null => true
  | string, .text _ => true
  | number, .int _ => true
  | number, .double _ => true
  | integer, .int _ => true
  | integer, .double x => x.isIntegral
  | array, .list _ => true
  | object, .object _ => true
  | _, _ => false

end Kind

------------------------------------------------------------
-- Shapes
------------------------------------------------------------

/- A check of the value at a path. -/
abbrev Shape :=
  List Text → Value → Except Fault Unit

namespace Shape

/- The value must be of one of some kinds. -/
def ofKinds
    (kinds : List Kind) :
    Shape :=
  fun path v =>
    if kinds.any fun k => k.holds v then .ok ()
    else do
      v.checkShown .documentComplaint
      throw (.invalidDocument path
        (.wrongKind v.inspected (kinds.map Kind.name)))

/- A key must be present. -/
def hasKey
    (fields : Fields)
    (path : List Text)
    (key : Text) :
    Except Fault Unit :=
  if (fields.get? key).isSome then .ok ()
  else .error (.invalidDocument path (.missingKey key))

/- The value under a key, if present, must have a shape. -/
def property
    (fields : Fields)
    (path : List Text)
    (key : Text)
    (shape : Shape) :
    Except Fault Unit :=
  match fields.get? key with
  | some v => shape (path ++ [key]) v
  | none => .ok ()

/- A number must not be below zero. -/
def notBelowZero :
    Shape :=
  fun path v =>
    match v.numeric? with
    | some x =>
        if x.compare? (.int 0) == some .lt then do
          v.checkShown .documentComplaint
          throw (.invalidDocument path (.belowZero v.inspected))
        else .ok ()
    | none => .ok ()

/- A length: a number that is not below zero. -/
def length :
    Shape :=
  fun path v => do
    ofKinds [.number] path v
    notBelowZero path v

/- An optional number. -/
def numberOrNull :
    Shape :=
  ofKinds [.number, .null]

/- The size of a canvas. -/
def size :
    Shape :=
  fun path v => do
    ofKinds [.object] path v
    match v with
    | .object fields => do
        hasKey fields path "width"
        hasKey fields path "height"
        property fields path "width" length
        property fields path "height" length
    | _ => return ()

/- The keys of an element that hold optional numbers, in order. -/
def numericKeys :
    List Text :=
  ["x", "y", "width", "height", "rotation", "zIndex", "z_index"]

/- An element. -/
def element :
    Shape :=
  fun path v => do
    ofKinds [.object] path v
    match v with
    | .object fields => do
        hasKey fields path "type"
        property fields path "id" (ofKinds [.string, .integer])
        property fields path "type" (ofKinds [.string])
        numericKeys.forM fun key => property fields path key numberOrNull
        property fields path "properties" (ofKinds [.object])
    | _ => return ()

/- Each item must have a shape, from the first on. -/
def eachFrom
    (shape : Shape)
    (path : List Text)
    (index : Nat) :
    List Value → Except Fault Unit
  | [] => .ok ()
  | v :: vs => do
      shape (path ++ [Text.digits 10 index]) v
      eachFrom shape path (index + 1) vs

/- A list of items of a shape. -/
def listOf
    (shape : Shape) :
    Shape :=
  fun path v => do
    ofKinds [.array] path v
    match v with
    | .list items => eachFrom shape path 0 items
    | _ => return ()

/- A label document. -/
def document :
    Shape :=
  fun path v => do
    ofKinds [.object] path v
    match v with
    | .object fields => do
        hasKey fields path "elements"
        property fields path "canvas" size
        property fields path "labelSize" size
        property fields path "elements" (listOf element)
    | _ => return ()

end Shape

------------------------------------------------------------
-- Documents
------------------------------------------------------------

/- A label document. -/
structure Document where
  canvas : Canvas
  elements : List Element

namespace Document

/- The value that describes the canvas of a document. -/
def canvasValue
    (fields : Fields) :
    Value :=
  let canvas := Value.fieldOf fields "canvas"
  if canvas.truthy then canvas else Value.fieldOf fields "labelSize"

/- The elements of objects, the first of which has a position. -/
def elementsFrom
    (index : Nat) :
    List Value → Outcome (List Element)
  | [] => .ok []
  | .object fields :: rest => do
      let e ← Element.ofFields fields (.index index)
      let es ← elementsFrom (index + 1) rest
      return e :: es
  | _ :: _ => .fail .missingPart

/- The document that a value of the right shape describes. -/
def ofValue
    (v : Value) :
    Outcome Document := do
  Shape.document [] v
  match v with
  | .object fields => do
      let canvas ← Canvas.ofValue (canvasValue fields)
      let items := ((Value.fieldOf fields "elements").items?).getD []
      let elements ← elementsFrom 0 items
      return ⟨canvas, elements⟩
  | _ => Outcome.fail .missingPart

/- The document in a file. -/
def ofFile
    (files : Files)
    (name : Text) :
    Outcome Document := do
  let text ← files.read name
  let v ← Json.parse (Machine.levels .documentText) text
  ofValue v

/-
  The document that is given: an object, a JSON text, or else the
  name of a file.
-/
def load
    (files : Files)
    (payload : Value) :
    Outcome Document :=
  match payload with
  | .object _ => ofValue payload
  | .text s =>
      match Json.parse (Machine.levels .documentText) s with
      | .ok v => ofValue v
      | .error (.malformedJson ..) => ofFile files s
      | .error f => .fail f
  | _ => .fail .unsupportedPayload

end Document

end LabelPress

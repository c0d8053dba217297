import LabelPress.Text.Basic

/-
  The types that the elements of a label may have.

  Key definitions include:
    * `ElementType`
    * `ElementType.name`
-/

namespace LabelPress

/- A type of elements that has properties of its own. -/
inductive ElementType where
  | text
  | line
  | box
  | circle
  | image
  | barcode
  deriving DecidableEq

namespace ElementType

/- The name of a type. -/
def name :
    ElementType → Text
  | text => "text"
  | line => "line"
  | box => "box"
  | circle => "circle"
  | image => "image"
  | barcode => "barcode"

/- The name of a type as part of a longer name. -/
def title :
    ElementType → Text
  | text => "Text"
  | line => "Line"
  | box => "Box"
  | circle => "Circle"
  | image => "Image"
  | barcode => "Barcode"

/- All types. -/
def all :
    List ElementType :=
  [text, line, box, circle, image, barcode]

/- The type of a name. -/
def ofName?
    (s : Text) :
    Option ElementType :=
  all.find? fun t => t.name == s

end ElementType

end LabelPress

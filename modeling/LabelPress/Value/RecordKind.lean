import LabelPress.Label.ElementType
import LabelPress.Printer.Protocol
import LabelPress.Variable.Family

/-
  The kinds of records.

  A record is a value whose fields are fixed by its kind: a
  canvas, a bound value, an element, the properties of an
  element, or the options of a printer language.

  Key definitions include:
    * `RecordKind`
    * `RecordKind.name`
-/

namespace LabelPress

/- The kind of a record. -/
inductive RecordKind where
  | canvas
  | bound (family : Family)
  | element (type : ElementType)
  | unknownElement
  | bareElement
  | properties (type : ElementType)
  | options (protocol : Protocol)
  deriving DecidableEq

namespace RecordKind

/- The name of the options of a language. -/
def optionsName :
    Protocol → Text
  | .zpl => "ZplOptions"
  | .epl => "EplOptions"
  | .dpl => "DplOptions"

/- The name of a kind. -/
def name :
    RecordKind → Text
  | canvas => "Canvas"
  | bound _ => "BoundValue"
  | element t => t.title ++ "Element"
  | unknownElement => "UnknownElement"
  | bareElement => "Element"
  | properties t => t.title ++ "Properties"
  | options p => optionsName p

end RecordKind

end LabelPress

import LabelPress.Value.Display
import LabelPress.Value.Stored
import LabelPress.Variable.Binding

/-
  Definitions of variables.

  A definition names a variable, says what type of value it
  takes, and may give a default and rules for values.

  Key definitions include:
    * `VariableType`
    * `ValidationRules`
    * `VariableDefinition`, with `VariableDefinition.make`
    * `VariableDefinition.ofFields`
    * `sampleData`
-/

namespace LabelPress

variable [Machine]

------------------------------------------------------------
-- Types and Rules
------------------------------------------------------------

/- The type of a variable. -/
inductive VariableType where
  | text
  | number
  | date
  | boolean
  | barcode
  | image
  deriving DecidableEq

namespace VariableType

/- The name of a type. -/
def name :
    VariableType → Text
  | text => "text"
  | number => "number"
  | date => "date"
  | boolean => "boolean"
  | barcode => "barcode"
  | image => "image"

/- All types. -/
def all :
    List VariableType :=
  [text, number, date, boolean, barcode, image]

/- The type that a value names. -/
def ofValue
    (v : Value) :
    Except Fault VariableType :=
  let found : Option VariableType :=
    match v with
    | .text s => all.find? fun t => t.name == s
    | _ => none
  match found with
  | some t => .ok t
  | none => do
      v.checkShown .typeComplaint
      throw (Fault.unknownVariableType v.inspected)

end VariableType

/- The rules for a value; a null is no rule. -/
structure ValidationRules where
  required : Value := .bool false
  minLength : Value := .null
  maxLength : Value := .null
  minimum : Value := .null
  maximum : Value := .null
  pattern : Value := .null

namespace ValidationRules

/- The keys of the rules. -/
def keys :
    List Text :=
  ["required", "min_length", "max_length", "minimum", "maximum",
    "pattern"]

/- The rules that the fields of an object list. -/
def ofFields
    (fields : Fields) :
    Except Fault ValidationRules :=
  if fields.all fun (key, _) => keys.contains key then
    .ok {
      required := (Fields.get? fields "required").getD (.bool false)
      minLength := Value.fieldOf fields "min_length"
      maxLength := Value.fieldOf fields "max_length"
      minimum := Value.fieldOf fields "minimum"
      maximum := Value.fieldOf fields "maximum"
      pattern := Value.fieldOf fields "pattern"
    }
  else .error .wrongKind

/-
  The rules that a value stands for.  A value that counts as
  absent is no rules at all; others are kept as they are.
-/
def ofValue :
    Value → Except Fault (Stored ValidationRules)
  | .object fields => do
      let rules ← ofFields fields
      return .record rules
  | v => .ok (if v.truthy then .foreign v else .record {})

end ValidationRules

------------------------------------------------------------
-- Definitions
------------------------------------------------------------

/- The definition of a variable. -/
structure VariableDefinition where
  name : Text
  type : VariableType := .text
  defaultValue : Value := .null
  description : Value := .text ""
  rules : Stored ValidationRules := .record {}
  nameAccepted : isVariableName name = true

namespace VariableDefinition

/- The definition of a name, which must be an identifier. -/
def make
    (name : Value)
    (type : Value)
    (defaultValue : Value)
    (description : Value)
    (rules : Stored ValidationRules) :
    Except Fault VariableDefinition :=
  match name with
  | .text s =>
      if h : isVariableName s = true then do
        let type ← VariableType.ofValue type
        return ⟨s, type, defaultValue, description, rules, h⟩
      else .error (.invalidVariableName name.inspected)
  | _ => do
      name.checkShown .nameComplaint
      throw (.invalidVariableName name.inspected)

/- The keys of a definition. -/
def keys :
    List Text :=
  ["name", "type", "default_value", "description", "validation"]

/- The definition that an object describes. -/
def ofFields
    (fields : Fields) :
    Except Fault VariableDefinition := do
  let rules ← ValidationRules.ofValue (Value.fieldOf fields "validation")
  if fields.all fun (key, _) => keys.contains key then
    match fields.get? "name" with
    | none => throw .wrongKind
    | some name =>
        make name
          ((fields.get? "type").getD (.text "text"))
          (Value.fieldOf fields "default_value")
          ((fields.get? "description").getD (.text ""))
          rules
  else throw .wrongKind

/- The definition that a value describes. -/
def ofValue :
    Value → Except Fault VariableDefinition
  | .object fields => ofFields fields
  | _ => .error .wrongKind

------------------------------------------------------------
-- Samples
------------------------------------------------------------

/- A sample of a type, on a given day. -/
def typeSample
    (today : Value) :
    VariableType → Value
  | .text => .text "Sample Text"
  | .number => .int 100
  | .date => today
  | .boolean => .bool true
  | .barcode => .text "123456789"
  | .image => .text ""

/- The default of a definition, or a sample of its type. -/
def sample
    (today : Value)
    (d : VariableDefinition) :
    Value :=
  if d.defaultValue.isNull || d.defaultValue.isEmptyText then
    typeSample today d.type
  else d.defaultValue

end VariableDefinition

/- A value for each definition, the last of a name deciding. -/
def sampleData
    (definitions : List VariableDefinition)
    (today : Value) :
    Fields :=
  definitions.foldl (fun fields d => fields.set d.name (d.sample today)) []

end LabelPress

import LabelPress.Calendar.Iso
import LabelPress.Outcome
import LabelPress.Value.Basic
import LabelPress.Variable.Family

/-
  Values bound to variable names.

  A bound value is tagged with the family of formats that it
  takes.  Text that reads as a date or a moment is tagged as one.
  Binding a table of values tags each of them, leaves out nulls
  and skips names that are no identifiers.

  Key definitions include:
    * `BoundValue`, with its `Family`
    * `Binding.classify`
    * `isVariableName`
    * `Bindings`, with `Bindings.get?` and `Bindings.bind`
-/

namespace LabelPress

------------------------------------------------------------
-- Bound Values
------------------------------------------------------------

/- A value and the family of formats that it takes. -/
structure BoundValue where
  family : Family
  value : Value

/- What a name is bound to. -/
inductive Binding where
  | bound (b : BoundValue)
  | data (v : Value)

namespace BoundValue

/- A bound value as a value. -/
def toValue
    (b : BoundValue) :
    Value :=
  .record (.bound b.family) [("value", b.value)]

/- Tag a value with its family; a bound value has one. -/
def ofValue :
    Value → BoundValue
  | .bool b => ⟨.boolean, .bool b⟩
  | .date d => ⟨.date, .date d⟩
  | .moment m => ⟨.date, .moment m⟩
  | .int n => ⟨.number, .int n⟩
  | .double x => ⟨.number, .double x⟩
  | .text s =>
      match Moment.ofText? s with
      | some m => ⟨.date, .moment m⟩
      | none => ⟨.string, .text s⟩
  | .record (.bound family) fields =>
      ⟨family, Value.fieldOf fields "value"⟩
  | v => ⟨.string, v⟩

end BoundValue

namespace Binding

/- The tagged value of a binding. -/
def classify :
    Binding → BoundValue
  | .bound b => b
  | .data v => BoundValue.ofValue v

/- Whether a binding stands for no value. -/
def isNull :
    Binding → Bool
  | .bound _ => false
  | .data v => v.isNull

end Binding

------------------------------------------------------------
-- Names
------------------------------------------------------------

/- An ASCII letter. -/
def isNameStart
    (c : CodePoint) :
    Bool :=
  ('a' ≤ c && c ≤ 'z') || ('A' ≤ c && c ≤ 'Z')

/- An ASCII letter, digit or underscore. -/
def isNamePart
    (c : CodePoint) :
    Bool :=
  isNameStart c || Text.isAsciiDigit c || c == '_'

/- Whether characters form an identifier. -/
def isName :
    Text → Bool
  | [] => false
  | c :: cs => isNameStart c && cs.all isNamePart

/- Whether a text may name a variable. -/
def isVariableName
    (s : Text) :
    Bool :=
  isName s

------------------------------------------------------------
-- Tables
------------------------------------------------------------

/- A table of bindings, or a thing that no name can be found in. -/
inductive Bindings where
  | table (entries : List (Text × Binding))
  | unusable

namespace Bindings

/- The binding of a name; a null stands for none. -/
def get? :
    Bindings → Text → Except Fault (Option Binding)
  | .table entries, name =>
      .ok ((entries.lookup name).filter fun b => !b.isNull)
  | .unusable, _ => .error .missingPart

/- The entry that binding one name leaves, if any. -/
def bindEntry
    (name : Text)
    (b : Binding) :
    Outcome (List (Text × Binding)) :=
  if isVariableName name then
    .ok (if b.isNull then [] else [(name, .bound b.classify)])
  else do
    Outcome.note (.variableSkipped name)
    return []

/- Tag the values of a table. -/
def bind :
    Bindings → Outcome Bindings
  | .table entries => do
      let bound ← Outcome.each (fun (k, b) => bindEntry k b) entries
      return .table bound.flatten
  | .unusable => .fail .missingPart

/- The table of the fields of an object. -/
def ofFields
    (fields : Fields) :
    Bindings :=
  .table (fields.map fun (k, v) => (k, .data v))

/- The table that a value is; only an object is one. -/
def ofValue :
    Value → Bindings
  | .object fields => ofFields fields
  | _ => .unusable

end Bindings

end LabelPress

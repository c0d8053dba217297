import LabelPress.Variable.Binding
import LabelPress.Variable.DateFormat
import LabelPress.Variable.NumberFormat
import LabelPress.Variable.Placeholder
import LabelPress.Variable.TextFormat

/-
  Placeholders replaced by values.

  A bound value is rendered in the formats of its family.  In a
  text, every placeholder whose name has a value is replaced by
  its rendering; all else stays as it is, and what is inserted is
  not looked at again.

  Key definitions include:
    * `BoundValue.render`
    * `Piece.resolve`
    * `resolveText`
    * `resolve`
-/

namespace LabelPress

variable [Machine]

------------------------------------------------------------
-- Renderings
------------------------------------------------------------

namespace BoundValue

/- A value of the date family in a format. -/
def renderDate
    (v : Value)
    (spec : Option Text) :
    Except Fault Text :=
  match v with
  | .date d => .ok (DateFormat.render d.atMidnight spec)
  | .moment m => .ok (DateFormat.render m spec)
  | .text s =>
      match Moment.ofText? s with
      | some m => .ok (DateFormat.render m spec)
      | none => .ok s
  | _ => .error .missingPart

/- A value of the string family in a format. -/
def renderText
    (v : Value)
    (spec : Option Text) :
    Except Fault Text := do
  v.checkShown .rendering
  match spec with
  | none => return v.toText
  | some spec =>
      if spec = "" then return v.toText
      else TextFormat.format v.toText spec

/- A bound value in a format of its family. -/
def render
    (b : BoundValue)
    (spec : Option Text) :
    Outcome Text :=
  match b.family with
  | .date => Outcome.lift (renderDate b.value spec)
  | .number => NumberFormat.format b.value spec
  | .boolean => .ok (TruthFormat.format b.value.truthy spec)
  | .string => Outcome.lift (renderText b.value spec)

end BoundValue

------------------------------------------------------------
-- Texts
------------------------------------------------------------

/- What a placeholder becomes. -/
def Placeholder.resolve
    (p : Placeholder)
    (bindings : Bindings) :
    Outcome Text := do
  match ← bindings.get? p.name with
  | some b => b.classify.render p.format
  | none => do
      let text := p.text
      Outcome.note (.unboundPlaceholder text)
      return text

/- What a piece of a text becomes. -/
def Piece.resolve
    (piece : Piece)
    (bindings : Bindings) :
    Outcome Text :=
  match piece with
  | .literal c => .ok [c]
  | .placeholder p => p.resolve bindings

/- A text with its placeholders replaced. -/
def resolveText
    (s : Text)
    (bindings : Bindings) :
    Outcome Text := do
  let parts ←
    Outcome.each (fun (piece : Piece) => piece.resolve bindings)
      (pieces s)
  return parts.flatten

/-
  A value with the placeholders of a text replaced.  A text
  without two opening braces side by side is not looked through.
-/
def resolve
    (v : Value)
    (bindings : Bindings) :
    Outcome Value :=
  match v with
  | .text s =>
      if hasOpening s then do
        let t ← resolveText s bindings
        return .text t
      else .ok (.text s)
  | v => .ok v

end LabelPress

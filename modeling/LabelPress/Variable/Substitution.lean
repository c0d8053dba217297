import LabelPress.Label.Coercion
import LabelPress.Variable.Resolution

/-
  Placeholders in the elements of a label.

  Three properties may carry placeholders: `text`, `data` and
  `src`.  Substitution resolves each of them that an element has
  and leaves everything else as it is.  Properties of a kind that
  the element should not have are resolved too, but fail where
  they would have to be made anew as the kind that it should.

  Key definitions include:
    * `textBearing`
    * `substituteForeign`, `substituteLoose`
    * `Element.substitute`
    * `substitute`
-/

namespace LabelPress

variable [Machine]

/- The keys of the properties that may carry placeholders. -/
def textBearing :
    List Text :=
  ["text", "data", "src"]

/- Resolve some keys of an object in turn. -/
def substituteKeys
    (bindings : Bindings)
    (fields : Fields) :
    List Text → Outcome Fields
  | [] => .ok fields
  | key :: rest =>
      match fields.get? key with
      | some v => do
          let resolved ← resolve v bindings
          substituteKeys bindings (fields.set key resolved) rest
      | none => substituteKeys bindings fields rest

/-
  Whether a value counts as changed when another has been put in
  its place.  The undefined number always does.
-/
def Value.isChangedTo
    (v : Value)
    (w : Value) :
    Bool :=
  match v, w with
  | .text s, .text t => s != t
  | .double x, _ => x.isNaN
  | _, _ => false

/- Whether resolving some keys of fields changes any of them. -/
def changesKeys
    (bindings : Bindings)
    (fields : Fields) :
    List Text → Outcome Bool
  | [] => .ok false
  | key :: rest =>
      match fields.get? key with
      | some v => do
          let resolved ← resolve v bindings
          let later ← changesKeys bindings fields rest
          return v.isChangedTo resolved || later
      | none => changesKeys bindings fields rest

/- Leave fields as they are, which they must be once resolved. -/
def keepFields
    (bindings : Bindings)
    (fields : Fields) :
    Outcome Unit := do
  let changes ← changesKeys bindings fields textBearing
  if changes then Outcome.fail .wrongKind else Outcome.ok ()

/-
  Resolve a value that stands where a record of properties
  belongs.  A record can be made anew; an object has to stay.
-/
def substituteForeign
    (bindings : Bindings) :
    Value → Outcome Value
  | .object fields => do
      keepFields bindings fields
      return .object fields
  | .record (.properties type) fields => do
      let fields ← substituteKeys bindings fields textBearing
      return .record (.properties type) fields
  | v => .ok v

/-
  Resolve the properties of an element of unknown type.  An object
  can be made anew; a record has to stay.
-/
def substituteLoose
    (bindings : Bindings) :
    Value → Outcome Value
  | .object fields => do
      let fields ← substituteKeys bindings fields textBearing
      return .object fields
  | .record (.properties type) fields => do
      keepFields bindings fields
      return .record (.properties type) fields
  | v => .ok v

/- Change a stored record by a step, or resolve what is in its place. -/
def Stored.substitute
    {α : Type}
    (bindings : Bindings)
    (f : α → Outcome α)
    (stored : Stored α) :
    Outcome (Stored α) :=
  match stored with
  | .record p => do
      let p ← f p
      return .record p
  | .foreign v => do
      let v ← substituteForeign bindings v
      return .foreign v

/- Resolve the text-bearing properties of a content. -/
def Content.substitute
    (bindings : Bindings) :
    Content → Outcome Content
  | .text stored => do
      let stored ← stored.substitute bindings fun p => do
        let text ← resolve p.text bindings
        return { p with text }
      return .text stored
  | .line stored => do
      let stored ← stored.substitute bindings Outcome.ok
      return .line stored
  | .box stored => do
      let stored ← stored.substitute bindings Outcome.ok
      return .box stored
  | .circle stored => do
      let stored ← stored.substitute bindings Outcome.ok
      return .circle stored
  | .image stored => do
      let stored ← stored.substitute bindings fun p => do
        let src ← resolve p.src bindings
        return { p with src }
      return .image stored
  | .barcode stored => do
      let stored ← stored.substitute bindings fun p => do
        let data ← resolve p.data bindings
        return { p with data }
      return .barcode stored
  | .unknown elementType properties => do
      let properties ← substituteLoose bindings properties
      return .unknown elementType properties
  | .bare => .ok .bare

/- Resolve the text-bearing properties of an element. -/
def Element.substitute
    (bindings : Bindings)
    (e : Element) :
    Outcome Element := do
  let content ← e.content.substitute bindings
  return { e with content }

/- Resolve the text-bearing properties of all elements. -/
def substitute
    (source : EntrySource)
    (bindings : Bindings) :
    Outcome (List Element) := do
  let entries ← source.entries?
  let elements ← coerceEntries entries
  Outcome.each (Element.substitute bindings) elements

end LabelPress

import LabelPress.Variable.Substitution

/-
  The variables that a label uses.

  An element uses the names of the placeholders in its
  text-bearing properties and the names that it declares in a
  list of variables.

  Key definitions include:
    * `references`
    * `Entry.usedNames`
    * `usedVariableNames`
-/

namespace LabelPress

variable [Machine]

/- The placeholders of a value in order; only texts have any. -/
def references :
    Value → List Placeholder
  | .text s => placeholders s
  | _ => []

/- The values of the text-bearing properties in a value. -/
def Value.textValues :
    Value → List Value
  | .object fields => textBearing.map (fieldOf fields)
  | .record (.properties _) fields => textBearing.map (fieldOf fields)
  | _ => []

/- The text-bearing values of a record, or of what is in its place. -/
def Stored.textValues
    {α : Type}
    (values : α → List Value)
    (stored : Stored α) :
    List Value :=
  match stored with
  | .record p => values p
  | .foreign v => v.textValues

/- The values of the text-bearing properties of a content. -/
def Content.textValues :
    Content → List Value
  | .text stored => stored.textValues fun p => [p.text]
  | .line stored => stored.textValues fun _ => []
  | .box stored => stored.textValues fun _ => []
  | .circle stored => stored.textValues fun _ => []
  | .image stored => stored.textValues fun p => [p.src]
  | .barcode stored => stored.textValues fun p => [p.data]
  | .unknown _ properties => properties.textValues
  | .bare => []

/- The names of the placeholders of a content in order. -/
def Content.placeholderNames
    (content : Content) :
    List Text :=
  (content.textValues.flatMap references).map fun p => p.name

/- The texts in a list that are not empty. -/
def declaredIn :
    Value → List Text
  | .list items => items.filterMap name?
  | .tuple items => items.filterMap name?
  | _ => []
where
  name? : Value → Option Text
    | .text s => if s = "" then none else some s
    | _ => none

/- The names that the properties of an object declare. -/
def declaredNames :
    Value → List Text
  | .object fields => declaredIn (Value.fieldOf fields "variables")
  | _ => []

/- The names that an entry declares. -/
def Entry.declared :
    Entry → List Text
  | .element e =>
      declaredNames (Value.fieldOf e.content.fields "properties")
  | .object fields => declaredNames (Value.fieldOf fields "properties")
  | .other _ => []

/- The names that an entry uses, placeholders first. -/
def Entry.usedNames
    (entry : Entry) :
    Outcome (List Text) := do
  match ← entry.coerce? 0 with
  | none => return []
  | some e => return e.content.placeholderNames ++ entry.declared

/- Keep the first of equal names. -/
def distinct
    (names : List Text) :
    List Text :=
  names.foldl
    (fun seen name => if seen.contains name then seen else seen ++ [name])
    []

/- The names that the entries use, each once, by first use. -/
def usedVariableNames
    (source : EntrySource) :
    Outcome (List Text) := do
  let entries ← source.entries?
  let names ← Outcome.each Entry.usedNames entries
  return distinct names.flatten

end LabelPress

import LabelPress.Machine.Usual
import LabelPress.Proofs.Label.Coercion
import LabelPress.Proofs.Value.Fields
import Mathlib.Logic.Relation

/-
  What the keys of properties stand for.

  A record is read from left to right, and each key sets the
  property that its normal form names.  At the end a property has
  the value of the last key that stands for it, or its default.
  Keys that stand for no property, the spelling of the others, and
  the order of keys for different properties have no effect.

  Main declarations:
    * `PropertyKey.spaced`, `PropertyKey.normalForm_eq`
    * `ElementType.propertyName`, `ElementType.lastGiven?`
    * `ElementType.readFields`
    * `SetsByName`, `SetsByName.exists_read`
    * `ElementType.Respelled`
    * `Element.ofFields_last_given`
-/

namespace LabelPress

------------------------------------------------------------
-- Normal Forms
------------------------------------------------------------

namespace PropertyKey

/- A character of a key, with an underscore if it begins a part. -/
def spacedAfter
    (before : Option CodePoint)
    (c : CodePoint) :
    Text :=
  if before.any endsPart && isCapital c then ['_', c] else [c]

/-
  A key with an underscore before each capital letter that comes
  after a small letter or a digit.
-/
def spaced
    (key : Text) :
    Text :=
  (List.zipWith spacedAfter (none :: key.map some) key).flatten

theorem separatedFrom_eq
    (before : Option CodePoint)
    (key : Text) :
    separatedFrom (before.any endsPart) key =
      (List.zipWith spacedAfter (before :: key.map some)
        key).flatten := by
  induction key generalizing before with
  | nil => rfl
  | cons c cs ih =>
      have hRest : separatedFrom (endsPart c) cs = _ := ih (some c)
      rw [List.map_cons, List.zipWith_cons_cons, List.flatten_cons,
        ← hRest, separatedFrom, spacedAfter]
      split_ifs
      · rfl
      · rfl

theorem normalForm_eq
    (key : Text) :
    normalForm key = Text.lower (spaced key) :=
  congrArg Text.lower (separatedFrom_eq none key)

end PropertyKey

------------------------------------------------------------
-- Names and Defaults
------------------------------------------------------------

namespace ElementType

/- The name that a normal form is read as. -/
def renamed
    (type : ElementType)
    (form : Text) :
    Text :=
  if type = barcode ∧ form = "type" then "symbology" else form

/- The name of the property that a key stands for, if there is one. -/
def propertyName
    (type : ElementType)
    (key : Text) :
    Text :=
  type.renamed (Text.lower (PropertyKey.spaced key))

/- The properties of a type, where nothing is given. -/
def defaults :
    ElementType → Fields
  | text => TextProperties.fields {}
  | line => LineProperties.fields {}
  | box => BoxProperties.fields {}
  | circle => CircleProperties.fields {}
  | image => ImageProperties.fields {}
  | barcode => BarcodeProperties.fields {}

/- The value of the last key that stands for a name. -/
def lastGiven?
    (type : ElementType)
    (given : Fields)
    (name : Text) :
    Option Value :=
  (given.filter fun field =>
    type.propertyName field.1 = name).getLast?.map Prod.snd

/- Fields under their last values, or those that they have. -/
def overwritten
    (type : ElementType)
    (given fields : Fields) :
    Fields :=
  fields.map fun field =>
    (field.1, (type.lastGiven? given field.1).getD field.2)

/- The properties of a type that are read from given ones. -/
def readFields
    (type : ElementType)
    (given : Fields) :
    Fields :=
  type.overwritten given type.defaults

section LastGiven

variable (type : ElementType)

theorem renamed_normalForm
    (key : Text) :
    type.renamed (PropertyKey.normalForm key) =
      type.propertyName key := by
  rw [propertyName, PropertyKey.normalForm_eq]

theorem lastGiven?_append
    (given later : Fields)
    (name : Text) :
    type.lastGiven? (given ++ later) name =
      (type.lastGiven? later name).or
        (type.lastGiven? given name) := by
  rw [lastGiven?, List.filter_append, List.getLast?_append,
    Option.map_or]
  rfl

theorem lastGiven?_cons
    (key name : Text)
    (v : Value)
    (rest : Fields) :
    type.lastGiven? ((key, v) :: rest) name =
      (type.lastGiven? rest name).or
        (if type.propertyName key = name then some v else none) := by
  rw [← List.singleton_append, lastGiven?_append]
  by_cases hName : type.propertyName key = name
  · simp [lastGiven?, hName]
  · simp [lastGiven?, hName]

/- A first key is overwritten by later ones for the same name. -/
theorem getD_lastGiven?_cons
    (key name : Text)
    (v w : Value)
    (rest : Fields) :
    (type.lastGiven? ((key, v) :: rest) name).getD w =
      (type.lastGiven? rest name).getD
        (if type.propertyName key = name then v else w) := by
  rw [lastGiven?_cons, Option.getD_or]
  split_ifs
  · rfl
  · rfl

end LastGiven

end ElementType

------------------------------------------------------------
-- Reading of Records
------------------------------------------------------------

/-
  Whether the properties of records are set under the names that
  normal forms are read as; other forms set nothing.
-/
def SetsByName
    {α : Type}
    (type : ElementType)
    (set? : α → Text → Value → Option α)
    (fields : α → Fields) :
    Prop :=
  ∀ p form v,
    fields ((set? p form v).getD p) =
      (fields p).map fun field =>
        (field.1, if type.renamed form = field.1 then v else field.2)

theorem TextProperties.setsByName :
    SetsByName .text set? fields := by
  intro p form v
  unfold set?
  split_ifs with hText hSize hWeight hFamily hColor hAlignment
  · subst hText
    rfl
  · subst hSize
    rfl
  · subst hWeight
    rfl
  · subst hFamily
    rfl
  · subst hColor
    rfl
  · subst hAlignment
    rfl
  · simp [fields, ElementType.renamed, *]

theorem LineProperties.setsByName :
    SetsByName .line set? fields := by
  intro p form v
  unfold set?
  split_ifs with hThickness hColor hStyle
  · subst hThickness
    rfl
  · subst hColor
    rfl
  · subst hStyle
    rfl
  · simp [fields, ElementType.renamed, *]

theorem BoxProperties.setsByName :
    SetsByName .box set? fields := by
  intro p form v
  unfold set?
  split_ifs with hWidth hColor hFill hRadius
  · subst hWidth
    rfl
  · subst hColor
    rfl
  · subst hFill
    rfl
  · subst hRadius
    rfl
  · simp [fields, ElementType.renamed, *]

theorem CircleProperties.setsByName :
    SetsByName .circle set? fields := by
  intro p form v
  unfold set?
  split_ifs with hWidth hColor hFill
  · subst hWidth
    rfl
  · subst hColor
    rfl
  · subst hFill
    rfl
  · simp [fields, ElementType.renamed, *]

theorem ImageProperties.setsByName :
    SetsByName .image set? fields := by
  intro p form v
  unfold set?
  split_ifs with hSource hAlternative hFit hOpacity
  · subst hSource
    rfl
  · subst hAlternative
    rfl
  · subst hFit
    rfl
  · subst hOpacity
    rfl
  · simp [fields, ElementType.renamed, *]

/- The type of a barcode is read as its symbology. -/
theorem BarcodeProperties.setsByName :
    SetsByName .barcode set? fields := by
  intro p form v
  unfold set?
  split_ifs with hData hSymbology hText hPosition
  · subst hData
    rfl
  · rcases hSymbology with rfl | rfl
    · rfl
    · rfl
  · subst hText
    rfl
  · subst hPosition
    rfl
  · rw [not_or] at hSymbology
    simp [fields, ElementType.renamed, *]

section Read

variable {α : Type}
variable {type : ElementType}
variable {set? : α → Text → Value → Option α}
variable {fields : α → Fields}

/- What is set last under a name stays in the record. -/
theorem SetsByName.exists_read
    (hSets : SetsByName type set? fields)
    (elementType : Text)
    (record : α)
    (given : Fields) :
    ∃ p, (readProperties set? elementType record given).result =
        .ok p ∧
      fields p = type.overwritten given (fields record) := by
  induction given generalizing record with
  | nil => exact ⟨record, rfl, (List.map_id _).symm⟩
  | cons field rest ih =>
      rcases field with ⟨key, v⟩
      rw [result_readProperties_cons]
      rcases ih ((set? record (PropertyKey.normalForm key) v).getD
        record) with ⟨p, hRead, hFields⟩
      refine ⟨p, hRead, ?_⟩
      rw [hFields, hSets, ElementType.overwritten,
        ElementType.overwritten, List.map_map]
      apply List.map_congr_left
      intro field _
      rw [ElementType.getD_lastGiven?_cons,
        ← ElementType.renamed_normalForm]
      rfl

end Read

------------------------------------------------------------
-- Reading of Contents
------------------------------------------------------------

/- Whether a content is a record of a type with some properties. -/
structure Content.IsRecordOf
    (content : Content)
    (type : ElementType)
    (properties : Fields) :
    Prop where
  made :
    content =
      Content.ofType type (.record (.properties type) properties)
  kind : content.recordKind = .element type
  fields :
    content.fields =
      ([("properties", .record (.properties type) properties)] :
        Fields)

theorem SetsByName.exists_content
    {α : Type}
    {type : ElementType}
    {set? : α → Text → Value → Option α}
    {fields : α → Fields}
    {record : α}
    {make : α → Content}
    (hSets : SetsByName type set? fields)
    (hDefaults : type.defaults = fields record)
    (hMake : ∀ p, (make p).IsRecordOf type (fields p))
    (elementType : Text)
    (given : Fields) :
    ∃ content,
      (do
        let p ← readProperties set? elementType record given
        return make p : Outcome Content).result = .ok content ∧
      content.IsRecordOf type (type.readFields given) := by
  rcases hSets.exists_read elementType record given with
    ⟨p, hRead, hLast⟩
  refine ⟨make p, ?_, ?_⟩
  · rw [Outcome.result_bind, hRead]
    rfl
  · rw [ElementType.readFields, hDefaults, ← hLast]
    exact hMake p

/- The content of a known type has the properties given last. -/
theorem Content.exists_read
    {elementType : Text}
    {type : ElementType}
    (hType : ElementType.ofName? elementType = some type)
    (id : Text)
    (given : Fields) :
    ∃ content,
      (Content.ofFields id elementType given).result =
        .ok content ∧
      content.IsRecordOf type (type.readFields given) := by
  unfold Content.ofFields
  rw [hType]
  cases type with
  | text =>
      exact TextProperties.setsByName.exists_content rfl
        (fun _ => ⟨rfl, rfl, rfl⟩) elementType given
  | line =>
      exact LineProperties.setsByName.exists_content rfl
        (fun _ => ⟨rfl, rfl, rfl⟩) elementType given
  | box =>
      exact BoxProperties.setsByName.exists_content rfl
        (fun _ => ⟨rfl, rfl, rfl⟩) elementType given
  | circle =>
      exact CircleProperties.setsByName.exists_content rfl
        (fun _ => ⟨rfl, rfl, rfl⟩) elementType given
  | image =>
      exact ImageProperties.setsByName.exists_content rfl
        (fun _ => ⟨rfl, rfl, rfl⟩) elementType given
  | barcode =>
      exact BarcodeProperties.setsByName.exists_content rfl
        (fun _ => ⟨rfl, rfl, rfl⟩) elementType given

------------------------------------------------------------
-- Other Spellings
------------------------------------------------------------

namespace ElementType

/-
  A change of given properties: a key that stands for no property
  is left out, a key is spelled differently, or two neighbouring
  keys for different properties are swapped.
-/
inductive Respelled
    (type : ElementType) :
    Fields → Fields → Prop where
  | leftOut
      (before after : Fields)
      {key : Text}
      (hNone : type.propertyName key ∉ type.defaults.map Prod.fst)
      (v : Value) :
      Respelled type (before ++ (key, v) :: after) (before ++ after)
  | spelled
      (before after : Fields)
      {key other : Text}
      (hSame : type.propertyName key = type.propertyName other)
      (v : Value) :
      Respelled type (before ++ (key, v) :: after)
        (before ++ (other, v) :: after)
  | swapped
      (before after : Fields)
      {key other : Text}
      (hOther : type.propertyName key ≠ type.propertyName other)
      (v w : Value) :
      Respelled type (before ++ (key, v) :: (other, w) :: after)
        (before ++ (other, w) :: (key, v) :: after)

variable {type : ElementType}
variable {given other : Fields}

/- A change leaves the last values of all properties. -/
theorem Respelled.lastGiven?_eq
    (hChange : type.Respelled given other)
    {name : Text}
    (hName : name ∈ type.defaults.map Prod.fst) :
    type.lastGiven? given name = type.lastGiven? other name := by
  cases hChange with
  | leftOut before after hNone v =>
      have hOther := ne_of_mem_of_not_mem hName hNone
      rw [lastGiven?_append, lastGiven?_append, lastGiven?_cons,
        if_neg hOther.symm, Option.or_none]
  | spelled before after hSame v =>
      rw [lastGiven?_append, lastGiven?_append, lastGiven?_cons,
        lastGiven?_cons, hSame]
  | swapped before after hOther v w =>
      rw [lastGiven?_append, lastGiven?_append]
      simp only [lastGiven?_cons]
      split_ifs with hSecond hFirst
      · exact absurd (hFirst.trans hSecond.symm) hOther
      · rw [Option.or_none, Option.or_none]
      · rw [Option.or_none, Option.or_none]
      · rfl

/- Changes in a row leave what is read. -/
theorem readFields_eq_of_respelled
    (hChanges : Relation.EqvGen type.Respelled given other) :
    type.readFields given = type.readFields other := by
  induction hChanges with
  | rel given other hChange =>
      apply List.map_congr_left
      intro field hField
      rw [hChange.lastGiven?_eq (List.mem_map_of_mem hField)]
  | refl given => rfl
  | symm given other hChanges ih => exact ih.symm
  | trans given between other hFirst hRest ih ih' =>
      exact ih.trans ih'

end ElementType

------------------------------------------------------------
-- Elements
------------------------------------------------------------

section Properties

variable (fields given : Fields)

theorem typeValue_set_properties :
    typeValue (fields.set "properties" (.object given)) =
      typeValue fields := by
  rw [typeValue, Fields.get?_set_of_ne (by decide), typeValue]

theorem elementTypeOf_set_properties :
    elementTypeOf (fields.set "properties" (.object given)) =
      elementTypeOf fields := by
  rw [elementTypeOf, typeValue_set_properties, elementTypeOf]

theorem propertyFields_set_properties :
    propertyFields (fields.set "properties" (.object given)) =
      given := by
  rw [propertyFields, Fields.get?_set_self]

theorem fieldOf_set_properties
    {key : Text}
    (hKey : Text.ofString "properties" ≠ key) :
    Value.fieldOf (fields.set "properties" (.object given)) key =
      Value.fieldOf fields key := by
  rw [Value.fieldOf, Fields.get?_set_of_ne hKey, Value.fieldOf]

/- An element is named whatever its properties are. -/
theorem checkNames_set_properties
    [Machine]
    (position : Position) :
    checkNames (fields.set "properties" (.object given)) position =
      checkNames fields position := by
  rw [checkNames, typeValue_set_properties, lacksId,
    fieldOf_set_properties _ _ (by decide), checkNames, lacksId]

/- An element is placed whatever its properties are. -/
theorem Placement.ofFields_set_properties
    (position : Position) :
    Placement.ofFields (fields.set "properties" (.object given))
        position =
      Placement.ofFields fields position := by
  have hField :
      ∀ key : Text, Text.ofString "properties" ≠ key →
        Value.fieldOf (fields.set "properties" (.object given))
            key =
          Value.fieldOf fields key :=
    fun _ => fieldOf_set_properties fields given
  have hId :
      elementId (fields.set "properties" (.object given))
          position =
        elementId fields position := by
    rw [elementId, lacksId, hField "id" (by decide), elementId,
      lacksId]
  have hDepth :
      depthOf (fields.set "properties" (.object given)) =
        depthOf fields := by
    rw [depthOf, hField "z_index" (by decide),
      Fields.get?_set_of_ne (by decide), depthOf]
  rw [Placement.ofFields, hId, hDepth, hField "x" (by decide),
    hField "y" (by decide), hField "width" (by decide),
    hField "height" (by decide), hField "rotation" (by decide),
    Placement.ofFields]

end Properties

/-
  An element of a known type is its placement and its record, where
  its names can be shown.
-/
theorem Element.result_ofFields
    [Machine]
    {fields : Fields}
    {type : ElementType}
    (hType :
      ElementType.ofName? (elementTypeOf fields) = some type)
    (position : Position) :
    ∃ content : Content,
      content.IsRecordOf type
          (type.readFields (propertyFields fields)) ∧
        (Element.ofFields fields position).result = do
          checkNames fields position
          let p ← Placement.ofFields fields position
          return { p with content } := by
  rcases Content.exists_read hType (elementId fields position)
    (propertyFields fields) with ⟨content, hRead, hRecord⟩
  refine ⟨content, hRecord, ?_⟩
  simp only [Element.ofFields, Outcome.result_bind,
    Outcome.result_liftM, hRead]
  rfl

/-
  The properties of an element of a known type have the values of
  the last keys that stand for them, or their defaults.  The
  element stays the same when keys for no property come or go, keys
  are spelled differently, and neighbouring keys for different
  properties are swapped, any number of times.
-/
theorem Element.ofFields_last_given
    [Machine]
    {fields : Fields}
    {type : ElementType}
    (hType :
      ElementType.ofName? (elementTypeOf fields) = some type)
    (position : Position) :
    ((Element.ofFields fields position).result.map
        Element.toValue = do
      checkNames fields position
      let p ← Placement.ofFields fields position
      return Value.record (.element type)
        (p.fields ++
          ([("properties",
            .record (.properties type)
              (type.readFields (propertyFields fields)))] :
            Fields))) ∧
    ∀ given,
      Relation.EqvGen type.Respelled (propertyFields fields)
        given →
      (Element.ofFields (fields.set "properties" (.object given))
          position).result =
        (Element.ofFields fields position).result := by
  rcases Element.result_ofFields hType position with
    ⟨content, hRecord, hElement⟩
  refine ⟨?_, fun given hGiven => ?_⟩
  · rw [hElement]
    cases checkNames fields position with
    | error f => rfl
    | ok _ =>
    cases Placement.ofFields fields position with
    | error f => rfl
    | ok p =>
        simp only [Outcome.ok_bind, Outcome.pure_eq_ok, Except.map,
          Element.toValue, hRecord.kind, hRecord.fields]
  · have hType' := hType
    rw [← elementTypeOf_set_properties fields given] at hType'
    rcases Element.result_ofFields hType' position with
      ⟨content', hRecord', hElement'⟩
    have hSame : content' = content := by
      rw [propertyFields_set_properties,
        ← ElementType.readFields_eq_of_respelled hGiven] at hRecord'
      exact hRecord'.made.trans hRecord.made.symm
    rw [hElement', hElement, hSame, checkNames_set_properties,
      Placement.ofFields_set_properties]

/- Keys of a barcode, two for its symbology and one for nothing. -/
def mixedKeys : Fields :=
  [("Symbology", .text "EAN13"), ("data", .text "7"),
    ("TYPE", .text "CODE39"), ("showtext", .bool false)]

/- The same keys without the last, others swapped and respelled. -/
def plainKeys : Fields :=
  [("Symbology", .text "EAN13"), ("type", .text "CODE39"),
    ("data", .text "7")]

/- A barcode with such keys, at no place of its own. -/
def mixedBarcode : Fields :=
  [("type", .text " Barcode"), ("properties", .object mixedKeys)]

theorem respelled_mixedKeys :
    Relation.EqvGen ElementType.barcode.Respelled mixedKeys
      plainKeys := by
  have hLeftOut :
      ElementType.barcode.Respelled mixedKeys
        [("Symbology", .text "EAN13"), ("data", .text "7"),
          ("TYPE", .text "CODE39")] :=
    .leftOut
      [("Symbology", .text "EAN13"), ("data", .text "7"),
        ("TYPE", .text "CODE39")] [] (by decide +kernel)
      (.bool false)
  have hSwapped :
      ElementType.barcode.Respelled
        [("Symbology", .text "EAN13"), ("data", .text "7"),
          ("TYPE", .text "CODE39")]
        [("Symbology", .text "EAN13"), ("TYPE", .text "CODE39"),
          ("data", .text "7")] :=
    .swapped [("Symbology", .text "EAN13")] [] (by decide +kernel)
      (.text "7") (.text "CODE39")
  have hSpelled :
      ElementType.barcode.Respelled
        [("Symbology", .text "EAN13"), ("TYPE", .text "CODE39"),
          ("data", .text "7")] plainKeys :=
    .spelled [("Symbology", .text "EAN13")]
      [("data", .text "7")] (by decide +kernel)
      (.text "CODE39")
  exact .trans _ _ _ (.rel _ _ hLeftOut)
    (.trans _ _ _ (.rel _ _ hSwapped) (.rel _ _ hSpelled))

/- Of two keys for the symbology the last one counts. -/
theorem Element.ofFields_last_given_barcode :
    ElementType.ofName? (elementTypeOf mixedBarcode) =
        some .barcode ∧
      (Element.ofFields mixedBarcode (.index 0)).result.map
          Element.toValue =
        .ok (.record (.element .barcode)
          [("id", .text "element_0"), ("x", .double 0),
            ("y", .double 0), ("width", .double 0),
            ("height", .double 0), ("rotation", .int 0),
            ("z_index", .int 0),
            ("properties",
              .record (.properties .barcode)
                [("data", .text "7"),
                  ("symbology", .text "CODE39"),
                  ("show_text", .bool true),
                  ("text_position", .text "bottom")])]) ∧
      (Element.ofFields
          (mixedBarcode.set "properties" (.object plainKeys))
          (.index 0)).result =
        (Element.ofFields mixedBarcode (.index 0)).result := by
  have hType :
      ElementType.ofName? (elementTypeOf mixedBarcode) =
        some .barcode := by
    decide +kernel
  rcases Element.ofFields_last_given hType (.index 0) with
    ⟨hLast, hSame⟩
  refine ⟨hType, ?_, hSame plainKeys respelled_mixedKeys⟩
  rw [hLast]
  rfl

end LabelPress

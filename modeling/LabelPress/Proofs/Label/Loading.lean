import LabelPress.Machine.Usual
import LabelPress.Proofs.Json.Depth
import LabelPress.Proofs.Label.Document
import LabelPress.Proofs.Label.Schema
import LabelPress.Proofs.Stream.PlacedEntries
import LabelPress.Proofs.Value.Fields
import LabelPress.Proofs.Value.Equality

/-
  Documents of the right shape.

  A document of the right shape is read row by row, and its canvas
  from the size that it names.  Only an integer can go wrong then:
  one beyond the doubles where a number is asked for, or an id with
  too long a numeral.  What lies too deep is neither read from a
  text nor complained about.

  Main declarations:
    * `Fields.NamesCanvas`
    * `mapIdx_of_coerceFrom`
    * `Fields.documentNumbers`, `Document.exists_ofValue_iff`
    * `Value.integersFit`
    * `Document.load_by_schema`
    * `Document.load_deepText`
-/

namespace LabelPress

open Outcome

------------------------------------------------------------
-- Canvases
------------------------------------------------------------

/- Whether a canvas has the sizes that fields name, as doubles. -/
structure Canvas.HasSize
    (c : Canvas)
    (size : Fields) :
    Prop where
  width :
    ∃ x, (Value.fieldOf size "width").toDouble = .ok x ∧
      c.width = .double x
  height :
    ∃ x, (Value.fieldOf size "height").toDouble = .ok x ∧
      c.height = .double x

/-
  Whether fields name a canvas: as their canvas, else as their
  label size, and else it is the standard one.
-/
inductive Fields.NamesCanvas
    (fields : Fields) :
    Canvas → Prop where
  | canvas
      {size : Fields}
      {c : Canvas}
      (hCanvas : fields.get? "canvas" = some (.object size))
      (hSize : c.HasSize size) :
      NamesCanvas fields c
  | labelSize
      {size : Fields}
      {c : Canvas}
      (hCanvas : fields.get? "canvas" = none)
      (hLabelSize :
        fields.get? "labelSize" = some (.object size))
      (hSize : c.HasSize size) :
      NamesCanvas fields c
  | standard
      (hCanvas : fields.get? "canvas" = none)
      (hLabelSize : fields.get? "labelSize" = none) :
      NamesCanvas fields .standard

/- The sizes in a value that describes a canvas. -/
def Value.sizes :
    Value → List Value
  | .object size => [fieldOf size "width", fieldOf size "height"]
  | _ => []

/- A length is read as the number that it is. -/
theorem Value.IsLength.doubleOr_eq
    {v : Value}
    (hLength : v.IsLength)
    (default : Double) :
    v.doubleOr default = v.toDouble := by
  cases hLength with
  | double hx => rfl
  | @whole n hn =>
      simp only [doubleOr, toDouble, doubleOfInt]
      cases Double.ofInt? n with
      | none => rfl
      | some x => rfl

section Canvases

variable {fields size : Fields}
variable {rows : List Fields}
variable {c : Canvas}

theorem Fields.IsSize.isLength
    (hSize : size.IsSize) :
    (Value.fieldOf size "width").IsLength ∧
      (Value.fieldOf size "height").IsLength := by
  rcases hSize with ⟨⟨w, hw, hWidth⟩, h, hh, hHeight⟩
  rw [Value.fieldOf, Value.fieldOf, hw, hh]
  exact ⟨hWidth, hHeight⟩

theorem Canvas.hasSize_of_ofFields
    (hSize : size.IsSize)
    (hRead : Canvas.ofFields size = .ok c) :
    c.HasSize size := by
  rcases hSize.isLength with ⟨hWidth, hHeight⟩
  unfold ofFields at hRead
  rw [hWidth.doubleOr_eq, hHeight.doubleOr_eq] at hRead
  rcases Outcome.bind_eq_ok_iff.mp hRead with ⟨x, hx, hRead⟩
  rcases Outcome.bind_eq_ok_iff.mp hRead with ⟨y, hy, hRead⟩
  obtain rfl := Except.ok.inj hRead
  exact ⟨⟨x, hx, rfl⟩, ⟨y, hy, rfl⟩⟩

theorem Canvas.exists_ofFields_iff :
    (∃ c, Canvas.ofFields size = .ok c) ↔
      ∀ v ∈ (Value.object size).sizes, v.FitsDouble := by
  have hSteps :
      (∃ c, Canvas.ofFields size = .ok c) ↔
        (∃ x, (Value.fieldOf size "width").doubleOr
            defaultWidth = .ok x) ∧
          ∃ y, (Value.fieldOf size "height").doubleOr
            defaultHeight = .ok y := by
    unfold ofFields
    apply exists_bind_iff
    intro width
    apply exists_bind_iff_of_forall
    intro height
    exact ⟨_, rfl⟩
  rw [hSteps, Value.exists_doubleOr_iff,
    Value.exists_doubleOr_iff]
  simp only [Value.sizes, List.forall_mem_cons,
    List.not_mem_nil, false_implies, implies_true, and_true]

theorem Canvas.ofFields_failsOnly
    (size : Fields) :
    FailsOnlyTooLarge (Canvas.ofFields size) :=
  (Value.doubleOr_failsOnly _ _).bind fun _ =>
    (Value.doubleOr_failsOnly _ _).bind fun _ =>
      failsOnlyTooLarge_ok _

/- What describes the canvas of a document. -/
theorem Fields.IsDocument.canvasValue_cases
    (hDocument : fields.IsDocument rows) :
    (∃ size : Fields,
      fields.get? "canvas" = some (.object size) ∧
        size.IsSize ∧
        Document.canvasValue fields = .object size) ∨
    (∃ size : Fields,
      fields.get? "canvas" = none ∧
        fields.get? "labelSize" = some (.object size) ∧
        size.IsSize ∧
        Document.canvasValue fields = .object size) ∨
    (fields.get? "canvas" = none ∧
      fields.get? "labelSize" = none ∧
      Document.canvasValue fields = .null) := by
  have hSizes := hDocument.sizes
  simp only [List.forall_mem_cons, List.not_mem_nil,
    false_implies, implies_true, and_true] at hSizes
  unfold Document.canvasValue Value.fieldOf
  cases hCanvas : fields.get? "canvas" with
  | some v =>
      rcases hSizes.1 v hCanvas with ⟨size, rfl, hSize⟩
      have hTruthy : (Value.object size).truthy = true := by
        rcases hSize.width with ⟨w, hw, _⟩
        cases size with
        | nil => cases hw
        | cons field rest => rfl
      exact .inl ⟨size, rfl, hSize, if_pos hTruthy⟩
  | none =>
      cases hLabelSize : fields.get? "labelSize" with
      | some v =>
          rcases hSizes.2 v hLabelSize with ⟨size, rfl, hSize⟩
          exact .inr (.inl ⟨size, rfl, rfl, hSize, rfl⟩)
      | none => exact .inr (.inr ⟨rfl, rfl, rfl⟩)

theorem Fields.IsDocument.namesCanvas
    (hDocument : fields.IsDocument rows)
    (hRead :
      Canvas.ofValue (Document.canvasValue fields) = .ok c) :
    fields.NamesCanvas c := by
  rcases hDocument.canvasValue_cases with
    ⟨size, hCanvas, hSize, hValue⟩ |
    ⟨size, hCanvas, hLabelSize, hSize, hValue⟩ |
    ⟨hCanvas, hLabelSize, hValue⟩
  · rw [hValue] at hRead
    exact .canvas hCanvas (Canvas.hasSize_of_ofFields hSize hRead)
  · rw [hValue] at hRead
    exact .labelSize hCanvas hLabelSize
      (Canvas.hasSize_of_ofFields hSize hRead)
  · rw [hValue] at hRead
    obtain rfl := Except.ok.inj hRead
    exact .standard hCanvas hLabelSize

theorem Fields.IsDocument.exists_canvas_iff
    (hDocument : fields.IsDocument rows) :
    (∃ c, Canvas.ofValue (Document.canvasValue fields) = .ok c) ↔
      ∀ v ∈ (Document.canvasValue fields).sizes, v.FitsDouble := by
  rcases hDocument.canvasValue_cases with
    ⟨size, _, _, hValue⟩ | ⟨size, _, _, _, hValue⟩ |
    ⟨_, _, hValue⟩
  · rw [hValue]
    exact Canvas.exists_ofFields_iff
  · rw [hValue]
    exact Canvas.exists_ofFields_iff
  · rw [hValue]
    exact iff_of_true ⟨_, rfl⟩ (List.forall_mem_nil _)

theorem Fields.IsDocument.canvas_failsOnly
    (hDocument : fields.IsDocument rows) :
    FailsOnlyTooLarge
      (Canvas.ofValue (Document.canvasValue fields)) := by
  rcases hDocument.canvasValue_cases with
    ⟨size, _, _, hValue⟩ | ⟨size, _, _, _, hValue⟩ |
    ⟨_, _, hValue⟩
  · rw [hValue]
    exact Canvas.ofFields_failsOnly size
  · rw [hValue]
    exact Canvas.ofFields_failsOnly size
  · rw [hValue]
    exact failsOnlyTooLarge_ok _

end Canvases

------------------------------------------------------------
-- Rows
------------------------------------------------------------

/-
  Whether a row can be read: its numbers are in range, and its
  names can be shown.
-/
structure Fields.IsReadable
    [Machine]
    (row : Fields) :
    Prop where
  fits : (Entry.object row).FitsDoubles
  named : checkNames row (.index 0) = .ok ()

/- Objects are coerced when they can be read. -/
theorem Entry.coerces_object_iff
    [Machine]
    {fields : Fields} :
    (object fields).Coerces ↔ fields.IsReadable := by
  constructor
  · rintro ⟨e?, hCoerced⟩
    rcases coerce?_object_eq_ok_iff.mp hCoerced with
      ⟨hNames, place, _, hPlacement, _⟩
    exact ⟨(Placement.exists_ofFields_iff (.index 0)).mp
      ⟨place, hPlacement⟩, hNames⟩
  · rintro ⟨hFits, hNames⟩
    rcases (Placement.exists_ofFields_iff (.index 0)).mpr hFits
      with ⟨place, hPlacement⟩
    rcases Content.exists_ofFields
        (elementId fields (.index 0)) (elementTypeOf fields)
        (propertyFields fields) with ⟨content, hContent⟩
    exact ⟨_, coerce?_object_eq_ok_iff.mpr
      ⟨hNames, place, content, hPlacement, hContent, rfl⟩⟩

/-
  The type of a row is a text, and its id no list or object, so
  that its names are shown when its id is.
-/
theorem Fields.IsRow.checkNames_eq
    [Machine]
    {row : Fields}
    (hRow : row.IsRow)
    (index : Nat) :
    checkNames row (.index index) =
      (Value.fieldOf row "id").checkShown .elementId := by
  rcases hRow.type with ⟨type, hType⟩
  have hTypeShown :
      (typeValue row).checkShown .elementType = .ok () := by
    rw [typeValue, hType]
    rfl
  rw [checkNames, hTypeShown, Outcome.ok_bind]
  split_ifs with hNone
  · cases hId : Value.fieldOf row "id" with
    | null => rfl
    | text s => rfl
    | _ => simp [lacksId, hId, Value.isNull, Value.isEmptyText] at hNone
  · rfl

/- Rows are read in order, each at its own position. -/
theorem mapIdx_of_coerceFrom
    [Machine]
    {index : Nat}
    {rows : List Fields}
    {es : List Element}
    (hCoerced :
      (coerceFrom index (rows.map Entry.object)).result =
        .ok es) :
    (rows.mapIdx fun i row =>
        (Element.ofFields row (.index (index + i))).result) =
      es.map Except.ok := by
  induction rows generalizing index es with
  | nil =>
      obtain rfl : [] = es := Except.ok.inj hCoerced
      rfl
  | cons row rows ih =>
      simp only [List.map_cons, coerceFrom, Entry.coerce?,
        Outcome.result_bind, Outcome.result_pure]
        at hCoerced
      rcases Outcome.bind_eq_ok_iff.mp hCoerced with
        ⟨e?, hSome, hTail⟩
      rcases Outcome.bind_eq_ok_iff.mp hSome with
        ⟨e, hRow, hElement⟩
      obtain rfl : some e = e? := Except.ok.inj hElement
      rcases Outcome.bind_eq_ok_iff.mp hTail with
        ⟨later, hLater, hAll⟩
      obtain rfl : e :: later = es := Except.ok.inj hAll
      have hShift :
          (fun i row => (Element.ofFields row
              (.index (index + (i + 1)))).result) =
            fun i row => (Element.ofFields row
              (.index (index + 1 + i))).result := by
        funext i row
        rw [Nat.add_comm i 1, Nat.add_assoc]
      rw [List.mapIdx_cons, List.map_cons, Nat.add_zero, hRow,
        hShift, ih hLater]

theorem exists_coerceEntries_objects_iff
    [Machine]
    {rows : List Fields} :
    (∃ es, (coerceEntries (rows.map Entry.object)).result =
        .ok es) ↔
      ∀ row ∈ rows, row.IsReadable := by
  simp only [← Entry.coerces_object_iff]
  rw [← List.forall_mem_map (P := Entry.Coerces)]
  constructor
  · rintro ⟨es, hCoerced⟩
    exact (coerceFrom_unnamed hCoerced).1
  · intro hCoerces
    exact exists_coerceFrom hCoerces 0

------------------------------------------------------------
-- Documents
------------------------------------------------------------

/- The numbers that the reading of a document depends on. -/
def Fields.documentNumbers
    (fields : Fields)
    (rows : List Fields) :
    List Value :=
  (Document.canvasValue fields).sizes ++
    rows.flatMap fun row => (Entry.object row).numbers

namespace Document

variable [Machine]
variable {fields : Fields}
variable {rows : List Fields}

/- The check of the shape passes a document. -/
theorem shape_eq_ok
    (hDocument : fields.IsDocument rows) :
    Shape.document [] (.object fields) = .ok () := by
  have hChecks := Shape.checks_document [] (.object fields)
  cases hCheck : Shape.document [] (.object fields) with
  | ok u => rfl
  | error f =>
      rw [hCheck] at hChecks
      cases hChecks with
      | refused hNone _ =>
          exact absurd ⟨fields, rfl, rows, hDocument⟩ hNone

/- A document is read from its canvas and its rows. -/
theorem result_ofValue
    (hDocument : fields.IsDocument rows) :
    (ofValue (.object fields)).result =
      Canvas.ofValue (canvasValue fields) >>= fun c =>
        (coerceEntries (rows.map Entry.object)).result >>=
          fun es => .ok ⟨c, es⟩ := by
  have hItems :
      ((Value.fieldOf fields "elements").items?).getD [] =
        rows.map Value.object := by
    rw [Value.fieldOf, hDocument.elements]
    rfl
  simp only [ofValue, shape_eq_ok hDocument, hItems,
    Outcome.result_bind,
    Outcome.result_liftM, Outcome.result_pure, Outcome.ok_bind,
    result_elementsFrom]
  rfl

/-
  A document is read when its numbers are in range and the ids of
  its rows can be shown.
-/
theorem exists_ofValue_iff
    (hDocument : fields.IsDocument rows) :
    (∃ document, (ofValue (.object fields)).result =
        .ok document) ↔
      (∀ v ∈ fields.documentNumbers rows, v.FitsDouble) ∧
        ∀ row ∈ rows,
          (Value.fieldOf row "id").checkShown .elementId =
            .ok () := by
  have hRows :
      (∀ row ∈ rows, row.IsReadable) ↔
        (∀ v ∈ rows.flatMap fun row =>
          (Entry.object row).numbers, v.FitsDouble) ∧
        ∀ row ∈ rows,
          (Value.fieldOf row "id").checkShown .elementId =
            .ok () := by
    rw [List.forall_mem_flatMap, ← forall₂_and]
    refine forall₂_congr fun row hRow => ?_
    rw [← (hDocument.elementRows row hRow).checkNames_eq 0]
    exact ⟨fun ⟨hFits, hNamed⟩ => ⟨hFits, hNamed⟩,
      fun ⟨hFits, hNamed⟩ => ⟨hFits, hNamed⟩⟩
  rw [result_ofValue hDocument, Fields.documentNumbers,
    List.forall_mem_append, and_assoc, ← hRows,
    ← hDocument.exists_canvas_iff,
    ← exists_coerceEntries_objects_iff]
  apply exists_bind_iff
  intro c
  apply exists_bind_iff_of_forall
  intro es
  exact ⟨_, rfl⟩

theorem ofValue_failsOnly
    (hDocument : fields.IsDocument rows) :
    FailsOnly Fault.StopsEmission
      (ofValue (.object fields)).result := by
  rw [result_ofValue hDocument]
  exact hDocument.canvas_failsOnly.stopsEmission.bind fun _ =>
    (coerceFrom_failsOnly 0 _).bind fun _ => failsOnly_ok _

/- Where the ids can be shown only numbers can be at fault. -/
theorem ofValue_failsOnly_of_shown
    (hDocument : fields.IsDocument rows)
    (hIds :
      ∀ row ∈ rows,
        (Value.fieldOf row "id").checkShown .elementId =
          .ok ()) :
    FailsOnlyTooLarge (ofValue (.object fields)).result := by
  have hNames :
      ∀ entry ∈ rows.map Entry.object, ∀ row index,
        entry = .object row →
          FailsOnlyTooLarge (checkNames row (.index index)) := by
    rintro _ hMember row index rfl
    rcases List.mem_map.mp hMember with ⟨_, hRow, ⟨⟩⟩
    rw [(hDocument.elementRows row hRow).checkNames_eq,
      hIds row hRow]
    exact failsOnlyTooLarge_ok ()
  have hRows :
      FailsOnlyTooLarge
        (coerceEntries (rows.map Entry.object)).result :=
    coerceFrom_failsOnly_of (P := (· = .integerTooLarge)) rfl
      hNames 0
  rw [result_ofValue hDocument]
  exact hDocument.canvas_failsOnly.bind fun _ =>
    hRows.bind fun _ => failsOnlyTooLarge_ok _

/- A value that is no document is blamed for what it is. -/
theorem blames_ofValue
    {v : Value}
    (hNone :
      ¬ ∃ (fields : Fields) (rows : List Fields),
        v = .object fields ∧ fields.IsDocument rows) :
    ∃ f, Shape.document [] v = .error f ∧
      (ofValue v).result = .error f ∧ Blames v (.error f) := by
  have hChecks := Shape.checks_document [] v
  unfold ofValue
  rw [Outcome.result_bind, Outcome.result_liftM]
  cases hCheck : Shape.document [] v with
  | ok u =>
      rw [hCheck] at hChecks
      cases hChecks with
      | passed hSome =>
          rcases hSome with ⟨fields, hObject, rows, hDocument⟩
          exact absurd ⟨fields, rows, hObject, hDocument⟩ hNone
      | refused _ hBlames => cases hBlames
  | error f =>
      rw [hCheck] at hChecks
      cases hChecks with
      | refused _ hBlames => exact ⟨f, rfl, rfl, hBlames⟩

/- The canvas and the elements of a document that is read. -/
theorem parts_of_ofValue
    {document : Document}
    (hDocument : fields.IsDocument rows)
    (hRead : (ofValue (.object fields)).result = .ok document) :
    fields.NamesCanvas document.canvas ∧
      (rows.mapIdx fun i row =>
          (Element.ofFields row (.index i)).result) =
        document.elements.map Except.ok := by
  rw [result_ofValue hDocument] at hRead
  rcases Outcome.bind_eq_ok_iff.mp hRead with
    ⟨c, hCanvas, hRead⟩
  rcases Outcome.bind_eq_ok_iff.mp hRead with
    ⟨es, hCoerced, hRead⟩
  obtain rfl := Except.ok.inj hRead
  refine ⟨hDocument.namesCanvas hCanvas, ?_⟩
  have hRows := mapIdx_of_coerceFrom hCoerced
  simp only [Nat.zero_add] at hRows
  exact hRows

end Document

------------------------------------------------------------
-- Integers of Values
------------------------------------------------------------

namespace Value

/- Whether all the integers in a value are in range of doubles. -/
def integersFit :
    Value → Bool
  | .int n => decide (n.natAbs < Double.integerBound)
  | .list items => itemsFit items
  | .tuple items => itemsFit items
  | .object fields => fieldsFit fields
  | .record _ fields => fieldsFit fields
  | _ => true
where
  itemsFit : List Value → Bool
    | [] => true
    | v :: vs => integersFit v && itemsFit vs
  fieldsFit : List (Text × Value) → Bool
    | [] => true
    | (_, v) :: rest => integersFit v && fieldsFit rest

theorem fitsDouble_of_integersFit
    {v : Value}
    (hFits : v.integersFit = true) :
    v.FitsDouble := by
  rintro n rfl
  simpa [integersFit] using hFits

theorem integersFit_of_mem
    {items : List Value}
    {v : Value}
    (hFits : (Value.list items).integersFit = true)
    (hMember : v ∈ items) :
    v.integersFit = true := by
  change integersFit.itemsFit items = true at hFits
  induction items with
  | nil => cases hMember
  | cons w items ih =>
      rw [integersFit.itemsFit, Bool.and_eq_true] at hFits
      rcases List.mem_cons.mp hMember with rfl | hLater
      · exact hFits.1
      · exact ih hLater hFits.2

theorem integersFit_fieldOf
    {fields : Fields}
    (hFits : (Value.object fields).integersFit = true)
    (key : Text) :
    (fieldOf fields key).integersFit = true := by
  change integersFit.fieldsFit fields = true at hFits
  induction fields with
  | nil => rfl
  | cons field fields ih =>
      rcases field with ⟨k, v⟩
      rw [integersFit.fieldsFit, Bool.and_eq_true] at hFits
      rw [fieldOf, Fields.get?_cons]
      split_ifs with hKey
      · exact hFits.1
      · exact ih hFits.2

/- The parts of a value have no integers but its own. -/
theorem IsPartOf.integersFit
    {v w : Value}
    (hPart : w.IsPartOf v)
    (hFits : v.integersFit = true) :
    w.integersFit = true := by
  induction hPart with
  | whole => exact hFits
  | item _ hMember ih => exact ih (integersFit_of_mem hFits hMember)
  | @field v fields key _ hGet ih =>
      have hField := integersFit_fieldOf hFits key
      rw [fieldOf, hGet] at hField
      exact ih hField

mutual

/-
  A value whose integers are in range can be shown, unless it is
  too deep in itself.  The induction is on the value, with those
  on its items and on its fields.
-/
theorem checkInspected_of_integersFit
    {v : Value}
    (hFits : v.integersFit = true)
    (levels : Nat) :
    FailsOnly (· = .nestedTooDeep) (v.checkInspected levels) := by
  cases v with
  | int n =>
      have hShort :=
        (fitsDouble_of_integersFit hFits).checkNumeral
      change FailsOnly _ (checkNumeral n)
      rw [hShort]
      exact failsOnly_ok ()
  | list items => exact checkItems_of_integersFit hFits levels
  | tuple items => exact checkItems_of_integersFit hFits levels
  | object fields => exact checkFields_of_integersFit hFits levels
  | record kind fields =>
      rw [checkInspected]
      split_ifs with hShallow
      · exact failsOnly_error rfl
      · exact checkFields_of_integersFit hFits _
  | _ => exact failsOnly_ok ()

theorem checkItems_of_integersFit
    {vs : List Value}
    (hFits : integersFit.itemsFit vs = true)
    (levels : Nat) :
    FailsOnly (· = .nestedTooDeep) (checkItems levels vs) := by
  cases vs with
  | nil =>
      rw [checkItems]
      exact failsOnly_ok ()
  | cons v vs =>
      rw [integersFit.itemsFit, Bool.and_eq_true] at hFits
      cases levels with
      | zero => exact failsOnly_error rfl
      | succ levels =>
          exact (checkInspected_of_integersFit hFits.1 levels).bind
            fun _ => checkItems_of_integersFit hFits.2 (levels + 1)

theorem checkFields_of_integersFit
    {fields : List (Text × Value)}
    (hFits : integersFit.fieldsFit fields = true)
    (levels : Nat) :
    FailsOnly (· = .nestedTooDeep) (checkFields levels fields) := by
  rcases fields with _ | ⟨⟨key, v⟩, fields⟩
  · rw [checkFields]
    exact failsOnly_ok ()
  · rw [integersFit.fieldsFit, Bool.and_eq_true] at hFits
    cases levels with
    | zero => exact failsOnly_error rfl
    | succ levels =>
        exact (checkInspected_of_integersFit hFits.1 levels).bind
          fun _ => checkFields_of_integersFit hFits.2 (levels + 1)

end

theorem integersFit_boundOver
    (n : Nat) :
    (boundOver n).integersFit = true := by
  induction n with
  | zero => rfl
  | succ n ih =>
      change ((boundOver n).integersFit && true) = true
      rw [ih]
      rfl

end Value

section Integers

variable {fields : Fields}

theorem Entry.fitsDoubles_of_integersFit
    (hFits : (Value.object fields).integersFit = true) :
    (Entry.object fields).FitsDoubles := by
  have hField :
      ∀ key, (Value.fieldOf fields key).FitsDouble :=
    fun key => Value.fitsDouble_of_integersFit
      (Value.integersFit_fieldOf hFits key)
  have hDepth : (depthOf fields).FitsDouble := by
    have hFirst := hField "zIndex"
    unfold depthOf
    cases hGet : fields.get? "zIndex" with
    | none => exact hField "z_index"
    | some v =>
        rw [Value.fieldOf, hGet] at hFirst
        exact hFirst
  simp only [FitsDoubles, numbers, List.forall_mem_cons,
    List.not_mem_nil, false_implies, implies_true, and_true]
  exact ⟨hField _, hField _, hField _, hField _, hField _, hDepth⟩

theorem Fields.IsDocument.numbersFit
    {rows : List Fields}
    (hDocument : fields.IsDocument rows)
    (hFits : (Value.object fields).integersFit = true) :
    ∀ v ∈ fields.documentNumbers rows, v.FitsDouble := by
  rw [documentNumbers, List.forall_mem_append]
  constructor
  · have hCanvas :
        (Document.canvasValue fields).integersFit = true := by
      unfold Document.canvasValue
      dsimp only
      split_ifs with hTruthy
      · exact Value.integersFit_fieldOf hFits _
      · exact Value.integersFit_fieldOf hFits _
    intro v hv
    unfold Value.sizes at hv
    split at hv
    · rename_i size hSize
      rw [hSize] at hCanvas
      rcases List.mem_pair.mp hv with rfl | rfl
      · exact Value.fitsDouble_of_integersFit
          (Value.integersFit_fieldOf hCanvas _)
      · exact Value.fitsDouble_of_integersFit
          (Value.integersFit_fieldOf hCanvas _)
    · cases hv
  · have hItems := Value.integersFit_fieldOf hFits "elements"
    rw [Value.fieldOf, hDocument.elements] at hItems
    intro v hv
    rcases List.mem_flatMap.mp hv with ⟨row, hRow, hNumber⟩
    have hObject : (Value.object row).integersFit = true :=
      Value.integersFit_of_mem hItems (List.mem_map_of_mem hRow)
    exact Entry.fitsDoubles_of_integersFit hObject v hNumber

/- An id that is no list or object can be shown if it is short. -/
theorem Fields.IsRow.checkShown_id
    [Machine]
    {row : Fields}
    (hRow : row.IsRow)
    (hShort :
      ∀ n, Value.fieldOf row "id" = .int n →
        Value.checkNumeral n = .ok ()) :
    (Value.fieldOf row "id").checkShown .elementId = .ok () := by
  have hId := hRow.id
  unfold Value.fieldOf at hShort ⊢
  cases hGet : row.get? "id" with
  | none => rfl
  | some v =>
      rw [hGet] at hShort
      cases hId v hGet with
      | text s => rfl
      | integral hx => rfl
      | whole n => exact hShort n rfl

/- A document whose integers are in range is read. -/
theorem Fields.IsDocument.exists_ofValue
    [Machine]
    {rows : List Fields}
    (hDocument : fields.IsDocument rows)
    (hFits : (Value.object fields).integersFit = true) :
    ∃ document,
      (Document.ofValue (.object fields)).result = .ok document := by
  refine (Document.exists_ofValue_iff hDocument).mpr
    ⟨hDocument.numbersFit hFits, fun row hRow => ?_⟩
  have hItems := Value.integersFit_fieldOf hFits "elements"
  rw [Value.fieldOf, hDocument.elements] at hItems
  refine (hDocument.elementRows row hRow).checkShown_id
    fun n hId => ?_
  have hField := Value.integersFit_fieldOf
    (Value.integersFit_of_mem hItems (List.mem_map_of_mem hRow))
    "id"
  rw [hId] at hField
  exact (Value.fitsDouble_of_integersFit hField).checkNumeral

end Integers

------------------------------------------------------------
-- Loading
------------------------------------------------------------

namespace Document

/-
  Whether a payload gives a value: it is this object, or it is a
  JSON text of the value, to whatever depth that is read.
-/
inductive Gives :
    Value → Value → Prop where
  | object
      (fields : Fields) :
      Gives (.object fields) (.object fields)
  | text
      {s : Text}
      {v : Value}
      {depth : Nat}
      (hParse : Json.parse depth s = .ok v) :
      Gives (.text s) v

/- Whether a payload is no JSON text that lies too deep. -/
def IsWithinReach
    [Machine]
    (payload : Value) :
    Prop :=
  ∀ s, payload = .text s →
    Json.parse (Machine.levels .documentText) s ≠
      .error .nestedTooDeep

section Payloads

variable [Machine]
variable {payload v : Value}

theorem Gives.load_eq
    (hGiven : Gives payload v)
    (hReach : IsWithinReach payload)
    (files : Files) :
    load files payload = ofValue v := by
  cases hGiven with
  | object fields => rfl
  | @text s v depth hParse =>
      rcases Json.parse_of_parse hParse
          (Machine.levels .documentText) with hSame | hDeep
      · rw [load, hSame]
      · exact absurd hDeep (hReach s rfl)

/- Nothing is loaded from a text that lies too deep. -/
theorem load_beyond_reach
    (hBeyond : ¬ IsWithinReach payload)
    (files : Files) :
    (load files payload).result = .error .nestedTooDeep := by
  rcases not_forall.mp hBeyond with ⟨s, hBoth⟩
  rcases Classical.not_imp.mp hBoth with ⟨rfl, hDeep⟩
  rw [Classical.not_not] at hDeep
  rw [load, hDeep]
  rfl

/-
  A value whose integers are in range is loaded exactly when it
  has the shape of a document.  It then has the canvas that it
  names and one element for each row, read at its position.  All
  other values are blamed for their shape, but for those with a
  part that lies too deep in itself to be complained about.  Of
  what lies in a text too deep to be read nothing is loaded.
-/
theorem load_by_schema
    (hGiven : Gives payload v)
    (hFits : v.integersFit = true)
    (files : Files) :
    (IsWithinReach payload →
      (∀ (fields : Fields) (rows : List Fields),
        v = .object fields → fields.IsDocument rows →
          ∃ document,
            (load files payload).result = .ok document ∧
              fields.NamesCanvas document.canvas ∧
              (rows.mapIdx fun i row =>
                  (Element.ofFields row (.index i)).result) =
                document.elements.map Except.ok) ∧
        ((¬ ∃ (fields : Fields) (rows : List Fields),
          v = .object fields ∧ fields.IsDocument rows) →
            (∃ path problem, (load files payload).result =
              .error (.invalidDocument path problem)) ∨
            (∃ w : Value, w.IsPartOf v ∧
              w.checkShown .documentComplaint =
                .error .nestedTooDeep) ∧
              (load files payload).result =
                .error .nestedTooDeep)) ∧
      (¬ IsWithinReach payload →
        (load files payload).result = .error .nestedTooDeep) := by
  refine ⟨fun hReach => ?_, fun hBeyond =>
    load_beyond_reach hBeyond files⟩
  rw [hGiven.load_eq hReach files]
  constructor
  · rintro fields rows rfl hDocument
    rcases hDocument.exists_ofValue hFits with ⟨document, hRead⟩
    exact ⟨document, hRead, parts_of_ofValue hDocument hRead⟩
  · intro hNone
    rcases blames_ofValue hNone with ⟨f, _, hFault, hBlames⟩
    rw [hFault]
    cases hBlames with
    | complaining path problem => exact .inl ⟨path, problem, rfl⟩
    | @speechless w _ hPart hShown =>
        obtain rfl : f = .nestedTooDeep :=
          Value.checkInspected_of_integersFit
            (hPart.integersFit hFits) _ f hShown
        exact .inr ⟨⟨w, hPart, hShown⟩, rfl⟩

end Payloads

/- The text of a row whose id is an integer and whose x is null. -/
def sizedRowText :
    Text :=
  "\x7b\"type\": \" Text\", \"id\": 7, \"x\": null\x7d"

/- The text of a document with an undefined height. -/
def sizedText :
    Text :=
  "\x7b\"labelSize\": \x7b\"width\": 40, \"height\": NaN\x7d, " ++
    "\"elements\": [" ++ sizedRowText ++ "]\x7d"

/- The fields of the row. -/
def sizedRow :
    Fields :=
  [("type", .text " Text"), ("id", .int 7), ("x", .null)]

/- The fields of the document. -/
def sizedDocument :
    Fields :=
  [("labelSize", .object
      [("width", .int 40), ("height", .double .nan)]),
    ("elements", .list [.object sizedRow])]

theorem parse_sizedText :
    Json.parse (Machine.usual.levels .documentText) sizedText =
      .ok (.object sizedDocument) := by
  rw [← Outcome.toOption_eq_some_iff]
  decide +kernel

theorem isRow_sizedRow :
    sizedRow.IsRow where
  type := ⟨" Text", rfl⟩
  id := by
    intro v hv
    obtain rfl : Value.int 7 = v := Option.some.inj hv
    exact .whole 7
  numbers := by
    intro key hKey v hv
    simp only [List.mem_cons, List.not_mem_nil, or_false]
      at hKey
    rcases hKey with rfl | rfl | rfl | rfl | rfl | rfl | rfl
    · exact .inr (Option.some.inj hv).symm
    all_goals cases hv
  properties := by
    intro v hv
    cases hv

theorem isDocument_sizedDocument :
    sizedDocument.IsDocument [sizedRow] where
  elements := rfl
  elementRows := List.forall_mem_singleton.mpr isRow_sizedRow
  sizes := by
    intro key hKey v hv
    rcases List.mem_pair.mp hKey with rfl | rfl
    · cases hv
    · refine ⟨_, (Option.some.inj hv).symm, ?_, ?_⟩
      · exact ⟨.int 40, rfl, .whole (by decide)⟩
      · exact ⟨.double .nan, rfl, .double rfl⟩

/- The text is loaded with its canvas and its one element. -/
theorem load_by_schema_sized :
    Json.parse (Machine.levels .documentText) sizedText =
        .ok (.object sizedDocument) ∧
      ∃ document,
        (load [] (.text sizedText)).result = .ok document ∧
          sizedDocument.NamesCanvas document.canvas ∧
          [(Element.ofFields sizedRow (.index 0)).result] =
            document.elements.map Except.ok := by
  have hReach : IsWithinReach (.text sizedText) := by
    rintro _ ⟨⟩ hDeep
    rw [parse_sizedText] at hDeep
    cases hDeep
  exact ⟨parse_sizedText,
    ((load_by_schema (.text parse_sizedText)
      (by decide +kernel) []).1 hReach).1 sizedDocument [sizedRow]
      rfl isDocument_sizedDocument⟩

/- The field of a document that has no elements. -/
def noElements :
    Text :=
  ['"', 'e', 'l', 'e', 'm', 'e', 'n', 't', 's', '"', ':', '[', ']']

/- A last field that holds a list in some lists. -/
def deepField
    (n : Nat) :
    Text :=
  .char '"' :: .char 'a' :: .char '"' :: .char ':' ::
    (Json.nestedText n ++ [.char '\x7d'])

/- The text of a document that has just these fields. -/
def deepText
    (n : Nat) :
    Text :=
  .char '\x7b' :: (noElements ++ .char ',' :: deepField n)

/- The fields of that document. -/
def deepDocument
    (n : Nat) :
    Fields :=
  [("elements", .list []), ("a", Json.nestedLists n)]

/- The document takes one level more than its lists. -/
theorem value_deepText
    {n fuel : Nat}
    (depth : Nat)
    (hFuel : 2 * n < fuel) :
    Json.value (fuel + 3) depth (deepText n) =
      if n + 1 < depth then .ok (.object (deepDocument n), [])
      else .error .tooDeep := by
  cases depth with
  | zero => rfl
  | succ depth =>
  cases depth with
  | zero =>
      rw [if_neg (Nat.not_lt_of_le (Nat.le_add_left 1 n))]
      rfl
  | succ depth =>
      have hTail :
          Json.skipSpace (Json.nestedText n ++ [.char '\x7d']) =
            Text.run '[' (n + 1) ++
              (Text.run ']' (n + 1) ++ [.char '\x7d']) := by
        unfold Json.nestedText
        rw [List.append_assoc]
        rfl
      have hLists :=
        Json.value_nested [.char '\x7d'] (depth + 1) hFuel
      rw [← hTail] at hLists
      have hKey :
          Json.string
              (.char 'a' :: .char '"' :: .char ':' ::
                (Json.nestedText n ++ [.char '\x7d'])) =
            .ok ("a", .char ':' ::
              (Json.nestedText n ++ [.char '\x7d'])) := by
        rfl
      calc Json.value (fuel + 3) (depth + 2) (deepText n)
        _ = Json.fields (fuel + 2) (depth + 1) []
              (noElements ++ .char ',' :: deepField n) := by
            rw [Json.value.eq_def]
            rfl
        _ = Json.fields (fuel + 1) (depth + 1)
              [("elements", .list [])] (deepField n) := by
            rw [Json.fields.eq_def]
            rfl
        _ = if n + 1 < depth + 2
              then .ok (.object (deepDocument n), [])
              else .error .tooDeep := by
            simp only [Nat.succ_lt_succ_iff]
            split_ifs at hLists ⊢ with hDeep
            · exact Json.fields_last hKey hLists
            · exact Json.fields_misread hKey hLists

theorem parse_deepText
    (n : Nat)
    (depth : Nat) :
    Json.parse depth (deepText n) =
      if n + 1 < depth then .ok (.object (deepDocument n))
      else .error .nestedTooDeep := by
  obtain ⟨fuel, hFuel, hEnough⟩ :
      ∃ fuel, 2 * (deepText n).length + 2 = fuel + 3 ∧
        2 * n < fuel := by
    have hLength : n < (deepText n).length := by
      simp only [deepText, deepField, Json.nestedText, Text.run,
        List.length_append, List.length_cons, List.length_replicate]
      omega
    exact ⟨2 * (deepText n).length - 1, by omega, by omega⟩
  have hStart :
      Json.skipSpace (deepText n) = deepText n ∧
        (deepText n).head? ≠ some (CodePoint.ofNat 0xFEFF) :=
    ⟨rfl, show some (CodePoint.char '\x7b') ≠ _ by decide⟩
  unfold Json.parse Json.document
  rw [if_neg hStart.2, hStart.1, hFuel,
    value_deepText depth hEnough]
  split_ifs with hDeep
  · rfl
  · rfl

theorem isDocument_deepDocument
    (n : Nat) :
    (deepDocument n).IsDocument [] where
  elements := rfl
  elementRows := List.forall_mem_nil _
  sizes := by
    intro key hKey v hv
    rcases List.mem_pair.mp hKey with rfl | rfl
    · cases hv
    · cases hv

theorem integersFit_nestedLists
    (n : Nat) :
    (Json.nestedLists n).integersFit = true := by
  induction n with
  | zero => rfl
  | succ n ih =>
      change ((Json.nestedLists n).integersFit && true) = true
      rw [ih]
      rfl

theorem load_deepText
    [Machine]
    {n : Nat}
    (hDeep : Machine.levels .documentText ≤ n + 1) :
    Gives (.text (deepText n)) (.object (deepDocument n)) ∧
      (Value.object (deepDocument n)).integersFit = true ∧
      (load [] (.text (deepText n))).result =
        .error .nestedTooDeep := by
  have hGiven :
      Json.parse (n + 2) (deepText n) =
        .ok (.object (deepDocument n)) := by
    rw [parse_deepText, if_pos (Nat.lt_succ_self (n + 1))]
  have hBeyond : ¬ IsWithinReach (.text (deepText n)) := by
    intro hReach
    refine hReach _ rfl ?_
    rw [parse_deepText, if_neg (Nat.not_lt_of_le hDeep)]
  have hFits :
      (Value.object (deepDocument n)).integersFit = true := by
    change ((Json.nestedLists n).integersFit && true) = true
    rw [integersFit_nestedLists]
    rfl
  exact ⟨.text hGiven, hFits, load_beyond_reach hBeyond []⟩

/- A document is not loaded from a text that lies too deep. -/
theorem load_too_deep :
    Gives (.text (deepText 1199)) (.object (deepDocument 1199)) ∧
      (Value.object (deepDocument 1199)).integersFit = true ∧
      (deepDocument 1199).IsDocument [] ∧
      (load [] (.text (deepText 1199))).result =
        .error .nestedTooDeep := by
  have hDeep : Machine.usual.levels .documentText ≤ 1199 + 1 := by
    decide
  rcases load_deepText hDeep with ⟨hGiven, hFits, hLoaded⟩
  exact ⟨hGiven, hFits, isDocument_deepDocument 1199, hLoaded⟩

end Document

end LabelPress

import LabelPress.Machine.Usual
import LabelPress.Proofs.Substitution.BoundOnce
import LabelPress.Proofs.Substitution.ListedNames
import LabelPress.Variable.Definition

/-
  Sample values in place of placeholders.

  The samples of some definitions have a value under each of their
  names, and all of them are bound.  So no placeholder with such a
  name is left for want of a value.

  Main declarations:
    * `map_fst_sampleData`, `get?_sampleData`
    * `forall_mem_sampleData`
    * `Bindings.boundFields`, `Bindings.bind_ofFields`
    * `Element.RendersTexts`, `rendersTexts_of_substitute`
    * `sampleData_fills_placeholders`
-/

namespace LabelPress

variable {definitions : List VariableDefinition}
variable {today : Value}

------------------------------------------------------------
-- Samples
------------------------------------------------------------

/- Fields with a sample put for each definition in turn. -/
def putSamples
    (today : Value)
    (fields : Fields)
    (definitions : List VariableDefinition) :
    Fields :=
  definitions.foldl
    (fun fields d => fields.set d.name (d.sample today)) fields

/- Putting samples adds the names that are not there. -/
theorem map_fst_putSamples
    (fields : Fields) :
    (putSamples today fields definitions).map Prod.fst =
      addDistinct (fields.map Prod.fst)
        (definitions.map VariableDefinition.name) := by
  induction definitions generalizing fields with
  | nil => rfl
  | cons d rest ih =>
      rw [List.map_cons, addDistinct_cons, ← Fields.map_fst_set]
      exact ih (fields.set d.name (d.sample today))

/- The names of samples are those of the definitions. -/
theorem map_fst_sampleData :
    (sampleData definitions today).map Prod.fst =
      distinct (definitions.map VariableDefinition.name) :=
  map_fst_putSamples []

/- Samples of other names leave what is under a name. -/
theorem get?_putSamples_of_ne
    {name : Text}
    (hOthers : ∀ d ∈ definitions, d.name ≠ name)
    (fields : Fields) :
    (putSamples today fields definitions).get? name =
      fields.get? name := by
  induction definitions generalizing fields with
  | nil => rfl
  | cons d rest ih =>
      rcases List.forall_mem_cons.mp hOthers with ⟨hOther, hRest⟩
      change
        (putSamples today (fields.set d.name (d.sample today))
          rest).get? name = _
      rw [ih hRest, Fields.get?_set_of_ne hOther]

/- The last definition of a name has its sample under the name. -/
theorem get?_sampleData
    {before after : List VariableDefinition}
    {d : VariableDefinition}
    (hLast : ∀ later ∈ after, later.name ≠ d.name) :
    (sampleData (before ++ d :: after) today).get? d.name =
      some (d.sample today) := by
  have hSplit :
      sampleData (before ++ d :: after) today =
        putSamples today
          ((sampleData before today).set d.name (d.sample today))
          after :=
    List.foldl_append
  rw [hSplit, get?_putSamples_of_ne hLast, Fields.get?_set_self]

/- Samples are defaults and samples of types. -/
theorem forall_mem_sampleData
    {P : Value → Prop}
    {definitions : List VariableDefinition}
    {today : Value}
    (hSamples : ∀ d ∈ definitions, P (d.sample today)) :
    ∀ field ∈ sampleData definitions today, P field.2 := by
  have hFrom :
      ∀ fields : Fields, (∀ field ∈ fields, P field.2) →
        ∀ field ∈ definitions.foldl
          (fun fields d => fields.set d.name (d.sample today))
          fields, P field.2 := by
    induction definitions with
    | nil => exact fun _ hFields => hFields
    | cons d rest ih =>
        rcases List.forall_mem_cons.mp hSamples with
          ⟨hFirst, hRest⟩
        intro fields hFields
        exact ih hRest _
          (Fields.forall_mem_set hFields hFirst d.name)
  exact hFrom [] (List.forall_mem_nil _)

/- No sample is null where the day is none. -/
theorem VariableDefinition.isNull_sample
    (hToday : today.isNull = false)
    (d : VariableDefinition) :
    (d.sample today).isNull = false := by
  unfold sample
  split_ifs with hAbsent
  · cases d.type with
    | date => exact hToday
    | _ => rfl
  · rw [Bool.or_eq_true, not_or] at hAbsent
    exact Bool.eq_false_iff.mpr hAbsent.1

/- The names of samples are names of variables. -/
theorem isVariableName_of_mem_sampleData :
    ∀ field ∈ sampleData definitions today,
      isVariableName field.1 = true := by
  intro field hMember
  have hName :
      field.1 ∈ (sampleData definitions today).map Prod.fst :=
    List.mem_map_of_mem hMember
  rw [map_fst_sampleData, mem_distinct_iff] at hName
  rcases List.mem_map.mp hName with ⟨d, _, hSame⟩
  exact hSame ▸ d.nameAccepted

------------------------------------------------------------
-- Bound Fields
------------------------------------------------------------

namespace Bindings

variable {fields : Fields}

/- A row with a tagged value for each field. -/
def boundFields
    (fields : Fields) :
    List (Text × Binding) :=
  fields.map fun (name, v) => (name, .bound (.ofValue v))

theorem map_fst_boundFields :
    (boundFields fields).map Prod.fst = fields.map Prod.fst :=
  List.map_map

theorem lookup_boundFields
    (name : Text) :
    (boundFields fields).lookup name =
      (fields.get? name).map fun v => .bound (.ofValue v) := by
  induction fields with
  | nil => rfl
  | cons field fields ih =>
      rcases field with ⟨key, v⟩
      rw [Fields.get?, boundFields, List.map_cons,
        List.lookup_cons, List.lookup_cons]
      cases name == key with
      | true => rfl
      | false => exact ih

/- Fields that all have names and values are bound as they are. -/
theorem bind_ofFields
    (hNames : ∀ field ∈ fields, isVariableName field.1 = true)
    (hValues : ∀ field ∈ fields, field.2.isNull = false) :
    (ofFields fields).bind = .ok (table (boundFields fields)) := by
  have hRows :
      (fields.map fun (name, v) => (name, Binding.data v)).filterMap
          boundRow? =
        boundFields fields := by
    rw [List.filterMap_map, boundFields, ← List.filterMap_eq_map]
    apply List.filterMap_congr
    intro field hMember
    have hKept :
        (isVariableName field.1 && !field.2.isNull) = true := by
      rw [hNames field hMember, hValues field hMember]
      rfl
    exact if_pos hKept
  rw [ofFields, bind_of_isVariableName, hRows]
  exact List.forall_mem_map.mpr hNames

end Bindings

------------------------------------------------------------
-- Placeholders of Samples
------------------------------------------------------------

/-
  Whether an element has each text of another one with all its
  placeholders rendered: the text is cut at its placeholders, and
  each is replaced by the rendering of the value under its name.
-/
def Element.RendersTexts
    [Machine]
    (rows : List (Text × Binding))
    (e resolved : Element) :
    Prop :=
  ∀ key ∈ textBearing, ∀ t, e.content.Shows key t →
    ∃ s fill, Cuts t s ∧
      (∀ p ∈ s.placeholders, ∃ x,
        rows.lookup p.name = some (.bound x) ∧
          (x.render p.format).result = .ok (fill p)) ∧
      resolved.content.Shows key (s.filled fill)

/- Where all placeholders are bound, all texts are rendered. -/
theorem Element.Resolves.rendersTexts
    [Machine]
    {rows : List (Text × Binding)}
    {e resolved : Element}
    (hResolves : e.Resolves (.table rows) resolved)
    (hBound :
      ∀ name ∈ e.content.placeholderNames, ∃ x,
        rows.lookup name = some (.bound x)) :
    e.RendersTexts rows resolved := by
  intro key hKey t hShows
  rcases hResolves.exists_filled hKey hShows with
    ⟨fill, hFills, hFilled⟩
  refine ⟨segments t, fill, cuts_segments t, ?_, hFilled⟩
  intro p hMember
  have hPlaceholder : p ∈ placeholders t := by
    rw [segments, Segments.placeholders_ofPieces] at hMember
    exact hMember
  rcases hBound p.name
      (Content.mem_placeholderNames_iff.mpr
        ⟨key, hKey, t, hShows, p, hPlaceholder, rfl⟩) with
    ⟨x, hLookup⟩
  have hGet :
      (Bindings.table rows).get? p.name =
        .ok (some (.bound x)) := by
    rw [Bindings.get?, hLookup]
    rfl
  refine ⟨x, hLookup, ?_⟩
  rcases hFills p hPlaceholder with
    ⟨hNone, _⟩ | ⟨bound, hSome, hRendered⟩
  · rw [hGet] at hNone
    cases hNone
  · obtain rfl : Binding.bound x = bound :=
      Option.some.inj (Except.ok.inj (hGet.symm.trans hSome))
    exact hRendered

/- A substitution renders all texts of elements that are bound. -/
theorem rendersTexts_of_substitute
    [Machine]
    {rows : List (Text × Binding)}
    {source : EntrySource}
    {entries : List Entry}
    {es resolved : List Element}
    (hEntries : source.entries? = .ok entries)
    (hCoerced : (coerceEntries entries).result = .ok es)
    (hBound :
      ∀ e ∈ es, ∀ name ∈ e.content.placeholderNames, ∃ x,
        rows.lookup name = some (.bound x))
    (hResolved :
      (substitute source (.table rows)).result = .ok resolved) :
    List.Forall₂ (Element.RendersTexts rows) es resolved := by
  rcases exists_elements_of_substitute hResolved with
    ⟨entries', es', hEntries', hCoerced', hSteps⟩
  obtain rfl : entries = entries' :=
    Except.ok.inj (hEntries.symm.trans hEntries')
  obtain rfl : es = es' :=
    Except.ok.inj (hCoerced.symm.trans hCoerced')
  apply ((List.forall₂_and_left es resolved).mpr
    ⟨hBound, hSteps⟩).imp
  rintro e next ⟨hNames, hStep⟩
  exact (Element.resolves_of_substitute hStep).rendersTexts hNames

/- A name that is defined is bound among the samples. -/
theorem exists_lookup_sampleData
    {name : Text}
    (hDefined :
      name ∈ definitions.map VariableDefinition.name) :
    ∃ x,
      (Bindings.boundFields (sampleData definitions today)).lookup
        name = some (.bound x) := by
  rw [← mem_distinct_iff, ← @map_fst_sampleData _ today]
    at hDefined
  rcases Fields.exists_get?_iff.mpr hDefined with ⟨v, hGet⟩
  refine ⟨.ofValue v, ?_⟩
  rw [Bindings.lookup_boundFields, hGet]
  rfl

/-
  Binding samples skips none of them.  It leaves the names of the
  definitions in order, each once and with the sample of its last
  definition.  When a label uses no other names, every placeholder
  in a text of it is bound, and a substitution that answers has
  replaced all of them by renderings.
-/
theorem sampleData_fills_placeholders
    [Machine]
    (hToday : today.isNull = false) :
    ∃ rows,
      (Bindings.ofFields (sampleData definitions today)).bind =
          .ok (.table rows) ∧
        rows.map Prod.fst =
          distinct (definitions.map VariableDefinition.name) ∧
        (∀ before d after,
          definitions = before ++ d :: after →
            (∀ later ∈ after, later.name ≠ d.name) →
              rows.lookup d.name =
                some (.bound (.ofValue (d.sample today)))) ∧
        ∀ source names,
          (usedVariableNames source).result = .ok names →
            names ⊆ definitions.map VariableDefinition.name →
              ∃ entries es,
                source.entries? = .ok entries ∧
                (coerceEntries entries).result = .ok es ∧
                (∀ e ∈ es, ∀ key ∈ textBearing, ∀ t,
                  e.content.Shows key t → ∀ p ∈ placeholders t,
                    ∃ x, rows.lookup p.name = some (.bound x)) ∧
                ∀ resolved,
                  (substitute source (.table rows)).result =
                      .ok resolved →
                    List.Forall₂ (Element.RendersTexts rows)
                      es resolved := by
  have hBind :
      (Bindings.ofFields (sampleData definitions today)).bind =
        .ok (.table
          (Bindings.boundFields (sampleData definitions today))) :=
    Bindings.bind_ofFields isVariableName_of_mem_sampleData
      (forall_mem_sampleData (P := fun v => v.isNull = false)
        fun d _ => d.isNull_sample hToday)
  refine ⟨_, hBind,
    Bindings.map_fst_boundFields.trans map_fst_sampleData, ?_, ?_⟩
  · rintro before d after rfl hLast
    rw [Bindings.lookup_boundFields, get?_sampleData hLast]
    rfl
  · intro source names hNames hKnown
    rcases usedVariableNames_eq_ok_iff.mp hNames with
      ⟨entries, hEntries, hRead, _⟩
    rcases exists_coerceFrom hRead 0 with ⟨es, hCoerced⟩
    have hBound :
        ∀ e ∈ es, ∀ name ∈ e.content.placeholderNames, ∃ x,
          (Bindings.boundFields
            (sampleData definitions today)).lookup name =
              some (.bound x) := by
      intro e hMember name hName
      exact exists_lookup_sampleData
        (hKnown
          (placeholderNames_subset_usedVariableNames hEntries
            hCoerced hNames hMember hName))
    refine ⟨entries, es, hEntries, hCoerced, ?_, ?_⟩
    · intro e hMember key hKey t hShows p hPlaceholder
      exact hBound e hMember p.name
        (Content.mem_placeholderNames_iff.mpr
          ⟨key, hKey, t, hShows, p, hPlaceholder, rfl⟩)
    · intro resolved hResolved
      exact rendersTexts_of_substitute hEntries hCoerced hBound
        hResolved

/-
  A code that is defined twice, the second time with a default,
  and a day, in a text and in a barcode.
-/
theorem sampleData_fills_placeholders_twice :
    let definitions : List VariableDefinition :=
      [{ name := "code", nameAccepted := by decide },
        { name := "day", type := .date, nameAccepted := by decide },
        { name := "code"
          type := .number
          defaultValue := .int 7
          nameAccepted := by decide }]
    let today : Value := .date ⟨2024, 1, 2, by decide⟩
    let rows : List (Text × Binding) :=
      [("code", .bound ⟨.number, .int 7⟩),
        ("day", .bound ⟨.date, today⟩)]
    let text : Entry :=
      .object [("type", .text "text"), ("properties",
        .object [("text", .text
          "\x7b\x7bday|YYYY\x7d\x7d-\x7b\x7bcode\x7d\x7d")])]
    let barcode : Entry :=
      .object [("type", .text "barcode"), ("properties",
        .object [("data",
          .text "\x7b\x7bcode|pad:3\x7d\x7d")])]
    (Bindings.ofFields (sampleData definitions today)).bind =
        .ok (.table rows) ∧
      ∃ es first second,
        (coerceEntries [text, barcode]).result = .ok es ∧
          (substitute (.entries [text, barcode])
              (.table rows)).result = .ok [first, second] ∧
          first.content.Shows "text" "2024-7" ∧
          second.content.Shows "data" "007" ∧
          List.Forall₂ (Element.RendersTexts rows) es
            [first, second] := by
  intro definitions today rows text barcode
  have hBind :
      (Bindings.ofFields (sampleData definitions today)).bind =
        .ok (.table rows) := rfl
  have hResolved :
      (substitute (.entries [text, barcode])
          (.table rows)).result = .ok [_, _] := rfl
  rcases @sampleData_fills_placeholders definitions today _ rfl with
    ⟨given, hGiven, _, _, hUsed⟩
  obtain rfl : rows = given :=
    Bindings.table.inj (Except.ok.inj
      (congrArg Outcome.result (hBind.symm.trans hGiven)))
  rcases hUsed (.entries [text, barcode]) ["day", "code"] rfl
      (by decide) with
    ⟨entries, es, hEntries, hCoerced, _, hRenders⟩
  obtain rfl : [text, barcode] = entries := Except.ok.inj hEntries
  exact ⟨hBind, es, _, _, hCoerced, hResolved, ⟨_, rfl, rfl⟩,
    ⟨_, rfl, rfl⟩, hRenders _ hResolved⟩

end LabelPress

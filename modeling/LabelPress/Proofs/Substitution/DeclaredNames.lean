import LabelPress.Machine.Usual
import LabelPress.Proofs.Command.Printing
import LabelPress.Proofs.Label.Document
import LabelPress.Proofs.Substitution.UsedNames

/-
  The names that objects declare, before and after reading.

  An object may declare names in its properties.  An element of a
  known type keeps no property but its own, so that the names
  which an object of such a type declares are gone once it is
  read.  All other names that a label uses are those of its
  elements.

  Main declarations:
    * `Element.usedNames`, `namesLostIn`
    * `declared_append_namesLostIn`
    * `addDistinct_flatMap_append`
    * `usedVariableNames_of_coerced`
-/

namespace LabelPress

------------------------------------------------------------
-- Names of One Element
------------------------------------------------------------

/- The names that an element uses. -/
def Element.usedNames
    (e : Element) :
    List Text :=
  e.content.placeholderNames ++ (Entry.element e).declared

/- The names that an object declares, if its type is known. -/
def namesLostIn
    (row : Fields) :
    List Text :=
  match ElementType.ofName? (elementTypeOf row) with
  | some _ => (Entry.object row).declared
  | none => []

theorem declaredNames_propertyFields
    (row : Fields) :
    declaredNames (.object (propertyFields row)) =
      declaredNames (Value.fieldOf row "properties") := by
  unfold propertyFields Value.fieldOf
  cases row.get? "properties" with
  | none => rfl
  | some v =>
      cases v with
      | _ => rfl

/- A record that is read from properties declares no names. -/
theorem declared_of_content
    {id elementType : Text}
    {properties : Fields}
    {type : ElementType}
    {content : Content}
    (hKnown : ElementType.ofName? elementType = some type)
    (hContent :
      (Content.ofFields id elementType properties).result =
        .ok content) :
    declaredNames (Value.fieldOf content.fields "properties") =
      [] := by
  rw [Content.ofFields, hKnown] at hContent
  cases type with
  | _ =>
      simp only [Outcome.result_bind] at hContent
      rcases Outcome.bind_eq_ok_iff.mp hContent with
        ⟨p, _, hMade⟩
      obtain rfl := Except.ok.inj hMade
      rfl

/- What an object declares is kept by its element, or lost. -/
theorem declared_append_namesLostIn
    [Machine]
    {row : Fields}
    {position : Position}
    {e : Element}
    (hElement :
      (Element.ofFields row position).result = .ok e) :
    (Entry.element e).declared ++ namesLostIn row =
      (Entry.object row).declared := by
  rcases Element.ofFields_eq_ok_iff.mp hElement with
    ⟨_, p, content, _, hContent, rfl⟩
  rw [namesLostIn]
  cases hKnown : ElementType.ofName? (elementTypeOf row) with
  | some type =>
      have hNone := declared_of_content hKnown hContent
      simp only [Entry.declared, hNone, List.nil_append]
  | none =>
      rw [Content.ofFields, hKnown] at hContent
      obtain rfl :
          Content.unknown (.text (elementTypeOf row))
              (.object (propertyFields row)) = content :=
        Except.ok.inj hContent
      rw [List.append_nil]
      exact declaredNames_propertyFields row

/-
  An object uses the names of its element and those that are lost
  in it, wherever in a list it is read.
-/
theorem usedNames_object
    [Machine]
    {row : Fields}
    {i : Nat}
    {e : Element}
    (hElement :
      (Element.ofFields row (.index i)).result = .ok e) :
    (Entry.object row).usedNames.result =
      .ok (e.usedNames ++ namesLostIn row) := by
  have hUnnamed := Element.ofFields_unnamed row i 0
  rw [hElement] at hUnnamed
  cases hFirst : (Element.ofFields row (.index 0)).result with
  | error f =>
      rw [hFirst] at hUnnamed
      cases hUnnamed
  | ok first =>
      rw [hFirst] at hUnnamed
      have hSame : e.unnamed = first.unnamed :=
        Except.ok.inj hUnnamed
      have hContent : e.content = first.content := by
        change e.unnamed.content = first.unnamed.content
        rw [hSame]
      rw [Element.usedNames, List.append_assoc,
        declared_append_namesLostIn hElement, hContent]
      simp only [Entry.usedNames, Entry.coerce?,
        Outcome.result_bind, hFirst]
      rfl

/- Elements use the names that they are said to use. -/
theorem usedNames_element
    [Machine]
    (e : Element) :
    (Entry.element e).usedNames.result = .ok e.usedNames :=
  rfl

------------------------------------------------------------
-- Names That Are Met Again
------------------------------------------------------------

/-
  Names can be left out of rows of names where they have been met
  in what is kept of the rows so far.
-/
theorem addDistinct_flatMap_append
    {α : Type}
    {kept lost : α → List Text}
    {rows : List α}
    {seen : List Text}
    (hMet :
      ∀ i row, rows[i]? = some row → ∀ name ∈ lost row,
        name ∈ seen ++ (rows.take (i + 1)).flatMap kept) :
    addDistinct seen
        (rows.flatMap fun row => kept row ++ lost row) =
      addDistinct seen (rows.flatMap kept) := by
  induction rows generalizing seen with
  | nil => rfl
  | cons row rows ih =>
      have hLost :
          lost row ⊆ addDistinct seen (kept row) := by
        intro name hName
        apply mem_addDistinct_iff.mpr
        have hHere := hMet 0 row rfl name hName
        simpa using hHere
      rw [List.flatMap_cons, List.flatMap_cons,
        addDistinct_append, addDistinct_append,
        addDistinct_append, addDistinct_of_subset hLost]
      apply ih
      intro i later hLater name hName
      have hThere := hMet (i + 1) later hLater name hName
      rw [List.take_succ_cons, List.flatMap_cons,
        ← List.append_assoc] at hThere
      rcases List.mem_append.mp hThere with hBefore | hAfter
      · apply List.mem_append_left
        exact mem_addDistinct_iff.mpr
          (List.mem_append.mp hBefore)
      · exact List.mem_append_right _ hAfter

------------------------------------------------------------
-- Names of a Label
------------------------------------------------------------

theorem result_usedVariableNames
    [Machine]
    {entries : List Entry}
    {names : List (List Text)}
    (hNames :
      List.Forall₂
        (fun entry row => entry.usedNames.result = .ok row)
        entries names) :
    (usedVariableNames (.entries entries)).result =
      .ok (distinct names.flatten) := by
  simp only [usedVariableNames, Outcome.result_bind,
    Outcome.result_liftM, Outcome.result_each,
    EntrySource.entries?, Outcome.ok_bind,
    Outcome.mapM_eq_ok_iff_forall₂.mpr hNames]
  rfl

theorem usedVariableNames_elements
    [Machine]
    (es : List Element) :
    (usedVariableNames (.entries (es.map Entry.element))).result =
      .ok (distinct (es.flatMap Element.usedNames)) := by
  rw [List.flatMap_def]
  apply result_usedVariableNames
  rw [List.forall₂_map_left_iff, List.forall₂_map_right_iff,
    List.forall₂_same]
  intro e _
  exact usedNames_element e

section Objects

variable [Machine]
variable {rows : List Fields}
variable {es : List Element}

/- An object with the element that it is read as. -/
def IsReadAs
    (row : Fields)
    (e : Element) :
    Prop :=
  ∃ i, (Element.ofFields row (.index i)).result = .ok e

theorem usedVariableNames_objects
    (hRead : List.Forall₂ IsReadAs rows es) :
    (usedVariableNames (.entries (rows.map Entry.object))).result =
      .ok (distinct
        ((rows.zip es).flatMap fun q =>
          q.2.usedNames ++ namesLostIn q.1)) := by
  rw [List.flatMap_def]
  apply result_usedVariableNames
  rw [List.forall₂_map_left_iff]
  induction hRead with
  | nil => exact .nil
  | cons hRow _ ih =>
      rcases hRow with ⟨i, hElement⟩
      exact .cons (usedNames_object hElement) ih

end Objects

/-
  The names that objects use are those that their elements use,
  and the ones that are lost.  Where each lost name is used by an
  element up to its own, reading the objects first does not change
  the list.  The list shown for a document is that of its elements,
  and it is shown exactly where the output can hold the names.
-/
theorem usedVariableNames_of_coerced
    [Machine]
    {rows : List Fields}
    {es : List Element}
    (hCoerced :
      (coerceEntries (rows.map Entry.object)).result = .ok es) :
    ∃ given listed,
      (usedVariableNames
          (.entries (rows.map Entry.object))).result =
        .ok given ∧
      (usedVariableNames
          (.entries (es.map Entry.element))).result =
        .ok listed ∧
      (∀ name, name ∈ given ↔
        name ∈ listed ∨
          ∃ row ∈ rows, name ∈ namesLostIn row) ∧
      ((∀ i row, rows[i]? = some row →
          ∀ name ∈ namesLostIn row,
            ∃ e ∈ es.take (i + 1), name ∈ e.usedNames) →
        listed = given) ∧
      ∀ top document files,
        (Document.ofValue (.object top)).result =
            .ok document →
          Value.fieldOf top "elements" =
              .list (rows.map Value.object) →
            ((Request.list files document).result =
                .ok (.printed files
                  (listed.flatMap fun name => name ++ "\n")) ↔
              ∀ name ∈ listed, canPrint name) := by
  have hRead : List.Forall₂ IsReadAs rows es :=
    coerceFrom_objects hCoerced
  have hLength : rows.length = es.length := hRead.length_eq
  have hElements : (rows.zip es).map Prod.snd = es :=
    List.map_snd_zip (Nat.le_of_eq hLength.symm)
  have hRows : (rows.zip es).map Prod.fst = rows :=
    List.map_fst_zip (Nat.le_of_eq hLength)
  refine ⟨_, _, usedVariableNames_objects hRead,
    usedVariableNames_elements es, ?_, ?_, ?_⟩
  · intro name
    rw [mem_distinct_iff, mem_distinct_iff, List.mem_flatMap,
      List.mem_flatMap]
    constructor
    · rintro ⟨⟨row, e⟩, hPair, hName⟩
      rcases List.of_mem_zip hPair with ⟨hRow, hElement⟩
      rcases List.mem_append.mp hName with hKept | hLost
      · exact .inl ⟨e, hElement, hKept⟩
      · exact .inr ⟨row, hRow, hLost⟩
    · rintro (⟨e, hElement, hKept⟩ | ⟨row, hRow, hLost⟩)
      · rw [← hElements] at hElement
        rcases List.mem_map.mp hElement with ⟨q, hPair, rfl⟩
        exact ⟨q, hPair, List.mem_append_left _ hKept⟩
      · rw [← hRows] at hRow
        rcases List.mem_map.mp hRow with ⟨q, hPair, rfl⟩
        exact ⟨q, hPair, List.mem_append_right _ hLost⟩
  · intro hMet
    have hKept :
        es.flatMap Element.usedNames =
          (rows.zip es).flatMap fun q => q.2.usedNames := by
      rw [← List.flatMap_map Prod.snd, hElements]
    rw [hKept]
    symm
    change addDistinct [] _ = addDistinct [] _
    apply addDistinct_flatMap_append
    intro i q hPair name hName
    rcases List.getElem?_zip_eq_some.mp hPair with
      ⟨hRow, -⟩
    rcases hMet i q.1 hRow name hName with ⟨e, hTaken, hUsed⟩
    rw [← hElements, ← List.map_take] at hTaken
    rcases List.mem_map.mp hTaken with ⟨q', hPair', rfl⟩
    exact List.mem_flatMap.mpr ⟨q', hPair', hUsed⟩
  · intro top document files hDocument hItems
    rcases Document.exists_rows_of_ofValue hDocument with
      ⟨top', rows', hTop, hItems', hCoerced'⟩
    obtain rfl : top = top' := Value.object.inj hTop
    rw [hItems] at hItems'
    obtain rfl : rows = rows' :=
      List.map_injective_iff.mpr (fun _ _ => Value.object.inj)
        hItems'
    obtain rfl : es = document.elements :=
      Except.ok.inj (hCoerced.symm.trans hCoerced')
    exact Request.result_list_eq_ok_iff
      (usedVariableNames_elements document.elements)

/- The object of an element that declares names. -/
def declaringRow
    (type text : Text)
    (names : List Text) :
    Fields :=
  [("type", .text type),
    ("properties", .object
      [("text", .text text),
        ("variables", .list (names.map Value.text))])]

/- A text that uses what it declares, and an unknown element. -/
def keptRows :
    List Fields :=
  [declaringRow "text" "{{a}}" ["a"],
    declaringRow "sticker" "{{b}}" ["y", "a"]]

/-
  The names of a text that declares what it uses, and those of an
  element of an unknown type, are listed as they are given.
-/
theorem usedVariableNames_of_coerced_kept :
    ∃ document,
      (Document.ofValue (.object
          [("elements", .list (keptRows.map Value.object))])).result =
        .ok document ∧
      (usedVariableNames
          (.entries (keptRows.map Entry.object))).result =
        .ok ["a", "b", "y"] ∧
      (Request.list [] document).result =
        .ok (.printed [] "a\nb\ny\n") := by
  have hCoerced :
      (coerceEntries (keptRows.map Entry.object)).result =
        .ok _ := rfl
  refine ⟨_, rfl, rfl, ?_⟩
  rcases usedVariableNames_of_coerced hCoerced with
    ⟨given, listed, hGiven, -, -, hSame, hPrinted⟩
  obtain rfl := Except.ok.inj hGiven
  have hKept := by
    apply hSame
    intro i row hRow name hName
    match i, hRow with
    | 0, hRow =>
        obtain rfl := Option.some.inj hRow
        obtain rfl : name = "a" := List.mem_singleton.mp hName
        exact ⟨_, List.mem_cons_self, List.mem_cons_self⟩
    | 1, hRow =>
        obtain rfl := Option.some.inj hRow
        cases hName
    | i + 2, hRow => cases hRow
  rw [hKept] at hPrinted
  exact (hPrinted [("elements", _)] _ [] rfl rfl).mpr
    (by decide)

/-
  A text that declares a name without using it is listed with
  that name before it is read, and without it afterwards.
-/
theorem usedVariableNames_coerced_ne :
    ∃ es document,
      (coerceEntries
          [.object (declaringRow "text" "{{a}}" ["z"])]).result =
        .ok es ∧
      (usedVariableNames (.entries
          [.object (declaringRow "text" "{{a}}" ["z"])])).result =
        .ok ["a", "z"] ∧
      (usedVariableNames
          (.entries (es.map Entry.element))).result =
        .ok ["a"] ∧
      (Document.ofValue (.object
          [("elements", .list
            [.object
              (declaringRow "text" "{{a}}" ["z"])])])).result =
        .ok document ∧
      (Request.list [] document).result =
        .ok (.printed [] "a\n") :=
  ⟨_, _, rfl, rfl, rfl, rfl, rfl⟩

end LabelPress

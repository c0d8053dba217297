import LabelPress.Label.Document
import LabelPress.Proofs.Label.Coercion
import Mathlib.Data.List.Forall2

/-
  The elements of a document.

  A document is loaded from a value, wherever that comes from, and
  its elements are those that the objects in the value are read
  as, each at its position.

  Main declarations:
    * `coerceFrom_objects`
    * `Document.result_elementsFrom`
    * `Document.exists_rows_of_ofValue`
    * `Document.exists_value_of_load`
    * `Document.exists_fields_of_mem`
-/

namespace LabelPress

variable [Machine]

/- Objects are read one by one, each at some place of a list. -/
theorem coerceFrom_objects
    {index : Nat}
    {rows : List Fields}
    {es : List Element}
    (hCoerced :
      (coerceFrom index (rows.map Entry.object)).result =
        .ok es) :
    List.Forall₂
      (fun row e => ∃ i,
        (Element.ofFields row (.index i)).result = .ok e)
      rows es := by
  induction rows generalizing index es with
  | nil =>
      obtain rfl : [] = es := Except.ok.inj hCoerced
      exact .nil
  | cons row rows ih =>
      simp only [List.map_cons, coerceFrom, Entry.coerce?,
        Outcome.result_bind, Outcome.result_pure]
        at hCoerced
      rcases Outcome.bind_eq_ok_iff.mp hCoerced with
        ⟨e?, hSome, hTail⟩
      rcases Outcome.bind_eq_ok_iff.mp hSome with
        ⟨e, hRow, hElement⟩
      obtain rfl : some e = e? := Except.ok.inj hElement
      rcases Outcome.bind_eq_ok_iff.mp hTail with
        ⟨later, hLater, hAll⟩
      obtain rfl : e :: later = es := Except.ok.inj hAll
      exact .cons ⟨_, hRow⟩ (ih hLater)

/- Each element of objects is read from one of them. -/
theorem exists_fields_of_coerceFrom
    {index : Nat}
    {rows : List Fields}
    {es : List Element}
    {e : Element}
    (hCoerced :
      (coerceFrom index (rows.map Entry.object)).result =
        .ok es)
    (hMember : e ∈ es) :
    ∃ fields position,
      (Element.ofFields fields position).result = .ok e := by
  have hRead := coerceFrom_objects hCoerced
  have hElements : (rows.zip es).map Prod.snd = es :=
    List.map_snd_zip (Nat.le_of_eq hRead.length_eq.symm)
  rw [← hElements] at hMember
  rcases List.mem_map.mp hMember with ⟨q, hPair, rfl⟩
  rcases List.forall₂_zip hRead hPair with ⟨i, hElement⟩
  exact ⟨q.1, .index i, hElement⟩

namespace Document

/- The elements of objects are those of entries. -/
theorem result_elementsFrom
    (index : Nat)
    (rows : List Fields) :
    (elementsFrom index (rows.map Value.object)).result =
      (coerceFrom index (rows.map Entry.object)).result := by
  induction rows generalizing index with
  | nil => rfl
  | cons row rows ih =>
      simp only [List.map_cons, elementsFrom, coerceFrom,
        Entry.coerce?, Outcome.result_bind,
        Outcome.result_pure, ih]
      cases (Element.ofFields row (.index index)).result with
      | error f => rfl
      | ok e => rfl

/- Only objects have elements. -/
theorem exists_rows_of_elementsFrom
    {index : Nat}
    {items : List Value}
    {es : List Element}
    (hElements :
      (elementsFrom index items).result = .ok es) :
    ∃ rows : List Fields, items = rows.map Value.object := by
  induction items generalizing index es with
  | nil => exact ⟨[], rfl⟩
  | cons item items ih =>
      cases item with
      | object fields =>
          simp only [elementsFrom, Outcome.result_bind]
            at hElements
          rcases Outcome.bind_eq_ok_iff.mp hElements with
            ⟨e, _, hTail⟩
          rcases Outcome.bind_eq_ok_iff.mp hTail with
            ⟨later, hLater, _⟩
          rcases ih hLater with ⟨rows, rfl⟩
          exact ⟨fields :: rows, rfl⟩
      | _ => cases hElements

/- The objects that a document is made of. -/
theorem exists_rows_of_ofValue
    {v : Value}
    {document : Document}
    (hDocument : (ofValue v).result = .ok document) :
    ∃ (top : Fields) (rows : List Fields),
      v = .object top ∧
        ((Value.fieldOf top "elements").items?).getD [] =
          rows.map Value.object ∧
        (coerceEntries (rows.map Entry.object)).result =
          .ok document.elements := by
  unfold ofValue at hDocument
  rw [Outcome.result_bind] at hDocument
  rcases Outcome.bind_eq_ok_iff.mp hDocument with
    ⟨_, _, hRead⟩
  cases v with
  | object top =>
      simp only [Outcome.result_bind] at hRead
      rcases Outcome.bind_eq_ok_iff.mp hRead with
        ⟨canvas, _, hElements⟩
      rcases Outcome.bind_eq_ok_iff.mp hElements with
        ⟨es, hItems, hMade⟩
      obtain rfl : Document.mk canvas es = document :=
        Except.ok.inj hMade
      rcases exists_rows_of_elementsFrom hItems with
        ⟨rows, hRows⟩
      rw [hRows, result_elementsFrom] at hItems
      exact ⟨top, rows, rfl, hRows, hItems⟩
  | _ => cases hRead

/- A document comes from a value, however it is given. -/
theorem exists_value_of_load
    {files : Files}
    {payload : Value}
    {document : Document}
    (hLoaded : (load files payload).result = .ok document) :
    ∃ v, (ofValue v).result = .ok document := by
  unfold load at hLoaded
  split at hLoaded
  · exact ⟨_, hLoaded⟩
  · split at hLoaded
    · exact ⟨_, hLoaded⟩
    · simp only [ofFile, Outcome.result_bind] at hLoaded
      rcases Outcome.bind_eq_ok_iff.mp hLoaded with
        ⟨text, _, hParse⟩
      rcases Outcome.bind_eq_ok_iff.mp hParse with
        ⟨v, _, hValue⟩
      exact ⟨v, hValue⟩
    · cases hLoaded
  · cases hLoaded

/- The elements of a document are read from fields. -/
theorem exists_fields_of_mem
    {files : Files}
    {payload : Value}
    {document : Document}
    {e : Element}
    (hLoaded : (load files payload).result = .ok document)
    (hMember : e ∈ document.elements) :
    ∃ fields position,
      (Element.ofFields fields position).result = .ok e := by
  rcases exists_value_of_load hLoaded with ⟨v, hValue⟩
  rcases exists_rows_of_ofValue hValue with
    ⟨_, rows, _, _, hCoerced⟩
  exact exists_fields_of_coerceFrom hCoerced hMember

end Document

end LabelPress

import LabelPress.Proofs.Placeholder.Resolution
import LabelPress.Proofs.Substitution.Frame

/-
  The texts that an element shows under its text-bearing keys.

  However the properties of an element are held, they show as the
  fields of an object or of a record.  The placeholders of an
  element are those of the texts among these fields, and these are
  the texts that a substitution puts others in place of.

  Main declarations:
    * `Content.Shows`
    * `Content.text_mem_textValues_iff`
    * `Content.mem_placeholderNames_iff`
    * `Element.Resolves.exists_filled`
-/

namespace LabelPress

------------------------------------------------------------
-- Values
------------------------------------------------------------

/- Whether properties have a text under a key. -/
def Value.ShowsText
    (v : Value)
    (key : Text)
    (t : Text) :
    Prop :=
  ∃ fields, v.propertyFields? = some fields ∧
    fields.get? key = some (.text t)

/- A field is a text when it is there and is one. -/
theorem Value.fieldOf_eq_text_iff
    {fields : Fields}
    {key t : Text} :
    Value.fieldOf fields key = .text t ↔
      fields.get? key = some (.text t) := by
  rw [Value.fieldOf]
  cases fields.get? key with
  | none => simp
  | some v => simp

theorem Value.text_mem_textValues_iff
    {v : Value}
    {t : Text} :
    .text t ∈ v.textValues ↔
      ∃ key ∈ textBearing, v.ShowsText key t := by
  have hFields (fields : Fields) :
      .text t ∈ textBearing.map (Value.fieldOf fields) ↔
        ∃ key ∈ textBearing, ∃ shown,
          some fields = some shown ∧
            shown.get? key = some (.text t) := by
    simp only [List.mem_map, Value.fieldOf_eq_text_iff,
      Option.some_inj, exists_eq_left']
  cases v with
  | object fields => exact hFields fields
  | record kind fields =>
      cases kind with
      | properties type => exact hFields fields
      | _ =>
          refine iff_of_false List.not_mem_nil ?_
          rintro ⟨_, _, _, hNone, _⟩
          cases hNone
  | _ =>
      refine iff_of_false List.not_mem_nil ?_
      rintro ⟨_, _, _, hNone, _⟩
      cases hNone

------------------------------------------------------------
-- Contents
------------------------------------------------------------

/- What stands for a record has the text-bearing values itself. -/
theorem Stored.text_mem_textValues_iff
    {α : Type}
    {type : ElementType}
    {values : α → List Value}
    {fields : α → Fields}
    {t : Text}
    (stored : Stored α)
    (hRecord :
      ∀ p, .text t ∈ values p ↔
        .text t ∈
          (Value.record (.properties type) (fields p)).textValues) :
    .text t ∈ stored.textValues values ↔
      .text t ∈ (stored.propertiesValue type fields).textValues := by
  cases stored with
  | record p => exact hRecord p
  | foreign v => exact Iff.rfl

namespace Content

/- Whether a content has a text under a key of its properties. -/
def Shows
    (content : Content)
    (key : Text)
    (t : Text) :
    Prop :=
  content.properties.ShowsText key t

/-
  The texts among the text-bearing values of a content are those
  among its properties, which show a null for each key that a
  record does not have.
-/
theorem text_mem_textValues_iff
    {content : Content}
    {t : Text} :
    .text t ∈ content.textValues ↔
      ∃ key ∈ textBearing, content.Shows key t := by
  have hProperties :
      .text t ∈ content.textValues ↔
        .text t ∈ content.properties.textValues := by
    -- a record of a kind without text-bearing properties has nulls
    have hNulls :
        .text t ∈ ([] : List Value) ↔
          .text t ∈ [Value.null, .null, .null] := by
      simp
    cases content with
    | text stored =>
        refine stored.text_mem_textValues_iff fun p => ?_
        change .text t ∈ [p.text] ↔
          .text t ∈ [p.text, .null, .null]
        simp
    | image stored =>
        refine stored.text_mem_textValues_iff fun p => ?_
        change .text t ∈ [p.src] ↔
          .text t ∈ [.null, .null, p.src]
        simp
    | barcode stored =>
        refine stored.text_mem_textValues_iff fun p => ?_
        change .text t ∈ [p.data] ↔
          .text t ∈ [.null, p.data, .null]
        simp
    | line stored =>
        exact stored.text_mem_textValues_iff fun _ => hNulls
    | box stored =>
        exact stored.text_mem_textValues_iff fun _ => hNulls
    | circle stored =>
        exact stored.text_mem_textValues_iff fun _ => hNulls
    | unknown elementType properties => rfl
    | bare => rfl
  rw [hProperties, Value.text_mem_textValues_iff]
  rfl

/- A name of a content is that of a placeholder in its texts. -/
theorem mem_placeholderNames_iff
    {content : Content}
    {name : Text} :
    name ∈ content.placeholderNames ↔
      ∃ key ∈ textBearing, ∃ t, content.Shows key t ∧
        ∃ p ∈ LabelPress.placeholders t, p.name = name := by
  rw [placeholderNames, List.mem_map]
  constructor
  · rintro ⟨p, hPlaceholder, hName⟩
    rcases List.mem_flatMap.mp hPlaceholder with ⟨v, hv, hp⟩
    cases v with
    | text t =>
        rcases text_mem_textValues_iff.mp hv with
          ⟨key, hKey, hShows⟩
        exact ⟨key, hKey, t, hShows, p, hp, hName⟩
    | _ => cases hp
  · rintro ⟨key, hKey, t, hShows, p, hp, hName⟩
    have hText : .text t ∈ content.textValues :=
      text_mem_textValues_iff.mpr ⟨key, hKey, hShows⟩
    exact ⟨p, List.mem_flatMap.mpr ⟨.text t, hText, hp⟩, hName⟩

end Content

------------------------------------------------------------
-- Resolved Texts
------------------------------------------------------------

variable {b : Bindings}

/- A text-bearing text of properties is resolved where it is. -/
theorem Value.Resolves.exists_resolved
    [Machine]
    {v w : Value}
    {key t : Text}
    (hResolves : v.Resolves b w)
    (hKey : key ∈ textBearing)
    (hShows : v.ShowsText key t) :
    ∃ u fields, (resolve (.text t) b).result = .ok u ∧
      w.propertyFields? = some fields ∧
      fields.get? key = some u := by
  rcases hShows with ⟨shown, hShown, hText⟩
  cases hResolves with
  | object hFields =>
      obtain rfl := Option.some.inj hShown
      rcases hFields.values key hKey _ hText with
        ⟨u, hValue, hGet⟩
      exact ⟨u, _, hValue, rfl, hGet⟩
  | record hFields =>
      obtain rfl := Option.some.inj hShown
      rcases hFields.values key hKey _ hText with
        ⟨u, hValue, hGet⟩
      exact ⟨u, _, hValue, rfl, hGet⟩
  | other hNone =>
      rw [hNone] at hShown
      cases hShown

/-
  A text that an element shows comes out as its cut, with each
  placeholder filled.
-/
theorem Element.Resolves.exists_filled
    [Machine]
    {e resolved : Element}
    {key t : Text}
    (hResolves : e.Resolves b resolved)
    (hKey : key ∈ textBearing)
    (hShows : e.content.Shows key t) :
    ∃ fill : Placeholder → Text,
      (∀ p ∈ placeholders t, b.Fills p (fill p)) ∧
        resolved.content.Shows key ((segments t).filled fill) := by
  rcases hResolves.content.properties.exists_resolved hKey
      hShows with
    ⟨u, fields, hValue, hFields, hGet⟩
  rcases result_resolve_text_eq_ok_iff.mp hValue with
    ⟨fill, hFills, rfl⟩
  exact ⟨fill, hFills, fields, hFields, hGet⟩

end LabelPress

import LabelPress.Machine.Usual
import LabelPress.Proofs.Substitution.Staged
import Mathlib.Data.List.Forall2

/-
  What a substitution leaves as it is.

  Each element that comes out of a substitution is the element
  that went in, apart from its text-bearing properties, and each
  of these that it has is resolved.  This is said of elements as
  they show: of the fields of their properties, in whatever form
  these are held.

  Main declarations:
    * `Fields.Resolves`, `Value.Resolves`, `Element.Resolves`
    * `resolves_of_substituteKeys`
    * `Content.resolves_of_substitute`
    * `substitute_resolves_texts`
-/

namespace LabelPress

section Texts

variable [Machine]
variable {b : Bindings}

------------------------------------------------------------
-- Fields
------------------------------------------------------------

/-
  Whether fields are others with the values under some keys
  resolved.  No key comes, goes or moves, and a value that is no
  text stays, also under these keys.
-/
structure Fields.Resolves
    (b : Bindings)
    (keys : List Text)
    (fields resolved : Fields) :
    Prop where
  order : resolved.map Prod.fst = fields.map Prod.fst
  values :
    ∀ key ∈ keys, ∀ v, fields.get? key = some v →
      ∃ w, (resolve v b).result = .ok w ∧
        resolved.get? key = some w
  others :
    ∀ key, key ∉ keys → resolved.get? key = fields.get? key
  plain :
    ∀ key v, (∀ t, v ≠ .text t) →
      fields.get? key = some v → resolved.get? key = some v

/- A value that is no text is resolved to itself. -/
theorem resolve_of_not_text
    {v : Value}
    (hPlain : ∀ t, v ≠ .text t)
    (b : Bindings) :
    resolve v b = .ok v := by
  cases v with
  | text t => exact absurd rfl (hPlain t)
  | _ => rfl

/-
  Fields under some keys that are resolved one after another are
  resolved together: no later key is one that was resolved.
-/
theorem resolves_of_substituteKeys
    {fields resolved : Fields}
    {keys : List Text}
    (hNodup : keys.Nodup)
    (hResolved :
      (substituteKeys b fields keys).result =
        .ok resolved) :
    Fields.Resolves b keys fields resolved := by
  induction keys generalizing fields with
  | nil =>
      obtain rfl : fields = resolved :=
        Except.ok.inj hResolved
      exact ⟨rfl, by simp, fun _ _ => rfl, fun _ _ _ h => h⟩
  | cons key keys ih =>
      rw [List.nodup_cons] at hNodup
      rw [result_substituteKeys_cons] at hResolved
      cases hGet : fields.get? key with
      | none =>
          rw [hGet] at hResolved
          have hRest := ih hNodup.2 hResolved
          refine ⟨hRest.order, ?_, ?_, hRest.plain⟩
          · intro k hMember v hField
            rcases List.mem_cons.mp hMember with rfl | hLater
            · rw [hGet] at hField
              cases hField
            · exact hRest.values k hLater v hField
          · intro k hOther
            rw [List.mem_cons, not_or] at hOther
            exact hRest.others k hOther.2
      | some v =>
          rw [hGet] at hResolved
          rcases Outcome.bind_eq_ok_iff.mp hResolved with
            ⟨w, hValue, hLast⟩
          have hRest := ih hNodup.2 hLast
          have hHere : resolved.get? key = some w := by
            rw [hRest.others key hNodup.1,
              Fields.get?_set_self]
          have hElsewhere :
              ∀ k, key ≠ k →
                (fields.set key w).get? k =
                  fields.get? k := by
            intro k hOther
            exact Fields.get?_set_of_ne hOther fields w
          refine ⟨?_, ?_, ?_, ?_⟩
          · rw [hRest.order, Fields.map_fst_set,
              if_pos (List.contains_iff_mem.mpr
                (Fields.exists_get?_iff.mp ⟨v, hGet⟩))]
          · intro k hMember u hField
            rcases List.mem_cons.mp hMember with rfl | hLater
            · obtain rfl : v = u :=
                Option.some.inj (hGet.symm.trans hField)
              exact ⟨w, hValue, hHere⟩
            · have hOther : key ≠ k := by
                rintro rfl
                exact hNodup.1 hLater
              rw [← hElsewhere k hOther] at hField
              exact hRest.values k hLater u hField
          · intro k hOther
            rw [List.mem_cons, not_or] at hOther
            rw [hRest.others k hOther.2,
              hElsewhere k (Ne.symm hOther.1)]
          · intro k u hPlain hField
            by_cases hSame : key = k
            · subst hSame
              obtain rfl : v = u :=
                Option.some.inj (hGet.symm.trans hField)
              rw [resolve_of_not_text hPlain] at hValue
              obtain rfl : v = w := Except.ok.inj hValue
              exact hHere
            · rw [← hElsewhere k hSame] at hField
              exact hRest.plain k u hPlain hField

/- Fields that resolving does not change are resolved already. -/
theorem resolves_of_changesKeys
    {fields : Fields}
    {keys : List Text}
    (hKept :
      (changesKeys b fields keys).result = .ok false) :
    Fields.Resolves b keys fields fields := by
  refine ⟨rfl, ?_, fun _ _ => rfl, fun _ _ _ h => h⟩
  induction keys with
  | nil => simp
  | cons key keys ih =>
      rw [result_changesKeys_cons] at hKept
      rw [List.forall_mem_cons]
      cases hGet : fields.get? key with
      | none =>
          rw [hGet] at hKept
          refine ⟨?_, ih hKept⟩
          intro v hField
          cases hField
      | some v =>
          rw [hGet] at hKept
          rcases Outcome.bind_eq_ok_iff.mp hKept with
            ⟨w, hValue, hTail⟩
          rcases Outcome.bind_eq_ok_iff.mp hTail with
            ⟨later, hLater, hNone⟩
          have hNeither :
              v.isChangedTo w = false ∧ later = false := by
            simpa using Except.ok.inj hNone
          rw [hNeither.2] at hLater
          refine ⟨?_, ih hLater⟩
          intro u hField
          obtain rfl : v = u := Option.some.inj hField
          have hSame : w = v :=
            eq_of_isChangedTo hValue hNeither.1
          exact ⟨w, hValue, by rw [hSame]⟩

------------------------------------------------------------
-- Values
------------------------------------------------------------

/- The fields of a value that can hold properties. -/
def Value.propertyFields? :
    Value → Option Fields
  | .object fields => some fields
  | .record (.properties _) fields => some fields
  | _ => none

/-
  Whether properties are others of the same kind with the
  text-bearing ones resolved.  What holds no properties stays.
-/
inductive Value.Resolves
    (b : Bindings) :
    Value → Value → Prop where
  | object
      {fields resolved : Fields}
      (hFields :
        Fields.Resolves b textBearing fields resolved) :
      Resolves b (.object fields) (.object resolved)
  | record
      {type : ElementType}
      {fields resolved : Fields}
      (hFields :
        Fields.Resolves b textBearing fields resolved) :
      Resolves b (.record (.properties type) fields)
        (.record (.properties type) resolved)
  | other
      {v : Value}
      (hNone : v.propertyFields? = none) :
      Resolves b v v

omit [Machine] in
theorem nodup_textBearing :
    textBearing.Nodup := by
  decide

theorem resolves_of_keepFields
    {fields : Fields}
    (hKept : (keepFields b fields).result = .ok ()) :
    Fields.Resolves b textBearing fields fields :=
  resolves_of_changesKeys (result_keepFields_eq_ok_iff.mp hKept)

theorem resolves_of_substituteForeign
    {v w : Value}
    (hForeign : (substituteForeign b v).result = .ok w) :
    v.Resolves b w := by
  cases v with
  | object fields =>
      rw [substituteForeign, Outcome.result_bind] at hForeign
      rcases Outcome.bind_eq_ok_iff.mp hForeign with
        ⟨_, hKept, hObject⟩
      obtain rfl : Value.object fields = w :=
        Except.ok.inj hObject
      exact .object (resolves_of_keepFields hKept)
  | record kind fields =>
      cases kind with
      | properties type =>
          rw [substituteForeign, Outcome.result_bind]
            at hForeign
          rcases Outcome.bind_eq_ok_iff.mp hForeign with
            ⟨next, hFields, hRecord⟩
          obtain rfl :
              Value.record (.properties type) next = w :=
            Except.ok.inj hRecord
          exact .record
            (resolves_of_substituteKeys nodup_textBearing
              hFields)
      | _ =>
          obtain rfl := Except.ok.inj hForeign
          exact .other rfl
  | _ =>
      obtain rfl := Except.ok.inj hForeign
      exact .other rfl

theorem resolves_of_substituteLoose
    {v w : Value}
    (hLoose : (substituteLoose b v).result = .ok w) :
    v.Resolves b w := by
  cases v with
  | object fields =>
      rw [substituteLoose, Outcome.result_bind] at hLoose
      rcases Outcome.bind_eq_ok_iff.mp hLoose with
        ⟨next, hFields, hObject⟩
      obtain rfl : Value.object next = w :=
        Except.ok.inj hObject
      exact .object
        (resolves_of_substituteKeys nodup_textBearing hFields)
  | record kind fields =>
      cases kind with
      | properties type =>
          rw [substituteLoose, Outcome.result_bind] at hLoose
          rcases Outcome.bind_eq_ok_iff.mp hLoose with
            ⟨_, hKept, hRecord⟩
          obtain rfl :
              Value.record (.properties type) fields = w :=
            Except.ok.inj hRecord
          exact .record (resolves_of_keepFields hKept)
      | _ =>
          obtain rfl := Except.ok.inj hLoose
          exact .other rfl
  | _ =>
      obtain rfl := Except.ok.inj hLoose
      exact .other rfl

------------------------------------------------------------
-- Contents
------------------------------------------------------------

/- The properties of a content as they show, null for none. -/
def Content.properties
    (content : Content) :
    Value :=
  Value.fieldOf content.fields "properties"

/- The type that a content is given as, null for known types. -/
def Content.givenType
    (content : Content) :
    Value :=
  Value.fieldOf content.fields "element_type"

/-
  A stored record shows as its fields, and the step that resolves
  the record resolves these.
-/
theorem Stored.resolves_of_substitute
    {α : Type}
    (type : ElementType)
    {fields : α → Fields}
    {f : α → Outcome α}
    {stored resolved : Stored α}
    (hStep :
      ∀ p q, (f p).result = .ok q →
        (substituteKeys b (fields p) textBearing).result =
          .ok (fields q))
    (hStored :
      (stored.substitute b f).result = .ok resolved) :
    (stored.propertiesValue type fields).Resolves b
      (resolved.propertiesValue type fields) := by
  cases stored with
  | record p =>
      rw [Stored.substitute, Outcome.result_bind] at hStored
      rcases Outcome.bind_eq_ok_iff.mp hStored with
        ⟨q, hq, hRecord⟩
      obtain rfl : Stored.record q = resolved :=
        Except.ok.inj hRecord
      exact .record
        (resolves_of_substituteKeys nodup_textBearing
          (hStep p q hq))
  | foreign v =>
      rw [Stored.substitute, Outcome.result_bind] at hStored
      rcases Outcome.bind_eq_ok_iff.mp hStored with
        ⟨w, hForeign, hValue⟩
      obtain rfl : Stored.foreign w = resolved :=
        Except.ok.inj hValue
      exact resolves_of_substituteForeign hForeign

/-
  How a content may come out of a substitution: with the same kind
  and given type, and with its properties resolved.
-/
structure Content.Resolves
    (b : Bindings)
    (content resolved : Content) :
    Prop where
  kind : resolved.recordKind = content.recordKind
  givenType : resolved.givenType = content.givenType
  properties : content.properties.Resolves b resolved.properties

section Records

variable {α : Type}

/- A record with one text-bearing property has it resolved. -/
theorem substituteKeys_of_property
    (fields : α → Fields)
    {get : α → Value}
    {set : α → Value → α}
    (hKeys :
      ∀ p, substituteKeys b (fields p) textBearing =
        resolve (get p) b >>= fun w => .ok (fields (set p w)))
    (p q : α)
    (hStep :
      (do return set p (← resolve (get p) b) :
        Outcome α).result = .ok q) :
    (substituteKeys b (fields p) textBearing).result =
      .ok (fields q) := by
  rw [Outcome.result_bind] at hStep
  rcases Outcome.bind_eq_ok_iff.mp hStep with ⟨w, hw, hSet⟩
  obtain rfl : set p w = q := Except.ok.inj hSet
  rw [hKeys, Outcome.result_bind, hw]
  rfl

/- A record without text-bearing properties stays. -/
theorem substituteKeys_of_plain
    (fields : α → Fields)
    (hKeys :
      ∀ p, substituteKeys b (fields p) textBearing =
        .ok (fields p))
    (p q : α)
    (hStep : (Outcome.ok p).result = .ok q) :
    (substituteKeys b (fields p) textBearing).result =
      .ok (fields q) := by
  obtain rfl : p = q := Except.ok.inj hStep
  rw [hKeys]
  rfl

/- A content of a known type is resolved as what it stores is. -/
theorem Content.resolves_of_stored
    {type : ElementType}
    {fields : α → Fields}
    {wrap : Stored α → Content}
    {f : α → Outcome α}
    {stored : Stored α}
    {resolved : Content}
    (hKind : ∀ s, (wrap s).recordKind = .element type)
    (hFields :
      ∀ s, (wrap s).fields =
        ([("properties", s.propertiesValue type fields)] :
          Fields))
    (hStep :
      ∀ p q, (f p).result = .ok q →
        (substituteKeys b (fields p) textBearing).result =
          .ok (fields q))
    (hContent :
      (do return wrap (← stored.substitute b f) :
        Outcome Content).result = .ok resolved) :
    (wrap stored).Resolves b resolved := by
  rw [Outcome.result_bind] at hContent
  rcases Outcome.bind_eq_ok_iff.mp hContent with
    ⟨next, hStored, hMade⟩
  obtain rfl : wrap next = resolved := Except.ok.inj hMade
  refine ⟨?_, ?_, ?_⟩
  · rw [hKind, hKind]
  · rw [givenType, givenType, hFields, hFields]
    rfl
  · rw [properties, properties, hFields, hFields]
    exact Stored.resolves_of_substitute type hStep hStored

end Records

theorem Content.resolves_of_substitute
    {content resolved : Content}
    (hContent :
      (content.substitute b).result = .ok resolved) :
    content.Resolves b resolved := by
  cases content with
  | text stored =>
      exact resolves_of_stored (fun _ => rfl) (fun _ => rfl)
        (substituteKeys_of_property TextProperties.fields
          fun _ => rfl) hContent
  | image stored =>
      exact resolves_of_stored (fun _ => rfl) (fun _ => rfl)
        (substituteKeys_of_property ImageProperties.fields
          fun _ => rfl) hContent
  | barcode stored =>
      exact resolves_of_stored (fun _ => rfl) (fun _ => rfl)
        (substituteKeys_of_property BarcodeProperties.fields
          fun _ => rfl) hContent
  | line stored =>
      exact resolves_of_stored (fun _ => rfl) (fun _ => rfl)
        (substituteKeys_of_plain LineProperties.fields
          fun _ => rfl) hContent
  | box stored =>
      exact resolves_of_stored (fun _ => rfl) (fun _ => rfl)
        (substituteKeys_of_plain BoxProperties.fields
          fun _ => rfl) hContent
  | circle stored =>
      exact resolves_of_stored (fun _ => rfl) (fun _ => rfl)
        (substituteKeys_of_plain CircleProperties.fields
          fun _ => rfl) hContent
  | unknown elementType properties =>
      rw [substitute, Outcome.result_bind] at hContent
      rcases Outcome.bind_eq_ok_iff.mp hContent with
        ⟨next, hLoose, hMade⟩
      obtain rfl : Content.unknown elementType next = resolved :=
        Except.ok.inj hMade
      exact ⟨rfl, rfl, resolves_of_substituteLoose hLoose⟩
  | bare =>
      obtain rfl := Except.ok.inj hContent
      exact ⟨rfl, rfl, .other rfl⟩

------------------------------------------------------------
-- Elements
------------------------------------------------------------

/- How an element may come out of a substitution. -/
structure Element.Resolves
    (b : Bindings)
    (e resolved : Element) :
    Prop where
  placement : resolved.toPlacement = e.toPlacement
  content : e.content.Resolves b resolved.content

theorem Element.resolves_of_substitute
    {e resolved : Element}
    (hElement : (e.substitute b).result = .ok resolved) :
    e.Resolves b resolved := by
  rw [Element.substitute, Outcome.result_bind] at hElement
  rcases Outcome.bind_eq_ok_iff.mp hElement with
    ⟨content, hContent, hMade⟩
  obtain rfl : { e with content } = resolved :=
    Except.ok.inj hMade
  exact ⟨rfl, Content.resolves_of_substitute hContent⟩

/- A substitution goes through what the entries are read as. -/
theorem exists_elements_of_substitute
    {source : EntrySource}
    {resolved : List Element}
    (hResolved : (substitute source b).result = .ok resolved) :
    ∃ entries es,
      source.entries? = .ok entries ∧
        (coerceEntries entries).result = .ok es ∧
        List.Forall₂
          (fun e next => (e.substitute b).result = .ok next)
          es resolved := by
  unfold substitute at hResolved
  simp only [Outcome.result_bind, Outcome.result_liftM,
    Outcome.result_each] at hResolved
  rcases Outcome.bind_eq_ok_iff.mp hResolved with
    ⟨entries, hEntries, hCoercion⟩
  rcases Outcome.bind_eq_ok_iff.mp hCoercion with
    ⟨es, hCoerced, hSteps⟩
  exact ⟨entries, es, hEntries, hCoerced,
    Outcome.mapM_eq_ok_iff_forall₂.mp hSteps⟩

/-
  A substitution has one element for each that its entries are
  read as, in their order.  Nothing of an element is changed but
  its text-bearing properties, which are resolved.
-/
theorem substitute_resolves_texts
    {source : EntrySource}
    {resolved : List Element}
    (hResolved :
      (substitute source b).result = .ok resolved) :
    ∃ entries es,
      source.entries? = .ok entries ∧
        (coerceEntries entries).result = .ok es ∧
        List.Forall₂ (Element.Resolves b) es resolved := by
  rcases exists_elements_of_substitute hResolved with
    ⟨entries, es, hEntries, hCoerced, hSteps⟩
  refine ⟨entries, es, hEntries, hCoerced, hSteps.imp ?_⟩
  exact fun e next => Element.resolves_of_substitute

end Texts

/-
  An element of an unknown type, with a placeholder in a property
  that bears no text and a number in one that does, and a line
  that has the properties of a text.
-/
theorem substitute_resolves_texts_mixed :
    let placeholder : Value := .text "\x7b\x7ba\x7d\x7d"
    let star : Entry :=
      .object [("type", .text "star"), ("properties",
        .object [("note", placeholder), ("data", .int 7),
          ("text", placeholder), ("size", .int 3)])]
    let odd (text : Value) : Element :=
      { x := .null
        content := .line (.foreign
          (.record (.properties .text)
            (TextProperties.fields { text }))) }
    let entries : List Entry :=
      [star, .other "NoneType", .element (odd placeholder)]
    let resolved : List Element :=
      [{ id := .text "element_0"
         content := .unknown (.text "star")
          (.object [("note", placeholder), ("data", .int 7),
            ("text", .text "x"), ("size", .int 3)]) },
        odd (.text "x")]
    let b : Bindings := .table [("a", .data (.text "x"))]
    (substitute (.entries entries) b).result = .ok resolved ∧
      ∃ es, (coerceEntries entries).result = .ok es ∧
        List.Forall₂ (Element.Resolves b) es resolved := by
  intro placeholder star odd entries resolved b
  have hResolved :
      (substitute (.entries entries) b).result =
        .ok resolved := by
    rfl
  rcases substitute_resolves_texts hResolved with
    ⟨given, es, hGiven, hCoerced, hElements⟩
  obtain rfl : entries = given := Except.ok.inj hGiven
  exact ⟨hResolved, es, hCoerced, hElements⟩

end LabelPress

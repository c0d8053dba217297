import LabelPress.Label.Bounds
import LabelPress.Label.Coercion
import LabelPress.Proofs.Outcome

/-
  Coercion and positions.

  The position of an entry reaches its element in the default id
  alone.  So whether entries can be read, and what their elements
  are apart from the ids, is known entry by entry.  A content that
  is read is one of the type that the entry names, with a record of
  its own if the type is known.

  Main declarations:
    * `result_readProperties_cons`
    * `Content.IsOfType`, `Content.isOfType_of_ofFields`
    * `Placement.exists_numbers_of_ofFields`
    * `Element.ofFields_eq_ok_iff`
    * `Element.unnamed`, `Entry.coerced?`, `Entry.Coerces`
    * `Entry.coerce?_unnamed`
    * `coerceFrom_unnamed`, `exists_coerceFrom`
    * `coerceFrom_elements`
-/

namespace LabelPress

------------------------------------------------------------
-- Elements without Ids
------------------------------------------------------------

/- Leave out the id of an element if it is a text. -/
def Element.unnamed
    (e : Element) :
    Element :=
  { e with
    id :=
      match e.id with
      | .text _ => .text ""
      | v => v }

/- An id can be shown whatever text it is. -/
theorem Element.checkShown_unnamed
    [Machine]
    (e : Element)
    (site : Site) :
    e.unnamed.id.checkShown site = e.id.checkShown site := by
  rcases e with ⟨⟨id, x, y, width, height, rotation, z⟩, content⟩
  cases id with
  | _ => rfl

/- A placement is read from the fields, apart from its id. -/
theorem Placement.ofFields_position
    (fields : Fields)
    (i j : Position) :
    Placement.ofFields fields j =
      (Placement.ofFields fields i).map fun p =>
        { p with id := .text (elementId fields j) } := by
  unfold Placement.ofFields
  cases (Value.fieldOf fields "x").doubleOr 0 with
  | error f => rfl
  | ok x =>
  cases (Value.fieldOf fields "y").doubleOr 0 with
  | error f => rfl
  | ok y =>
  cases (Value.fieldOf fields "width").doubleOr 0 with
  | error f => rfl
  | ok width =>
  cases (Value.fieldOf fields "height").doubleOr 0 with
  | error f => rfl
  | ok height =>
  cases quarterTurn (Value.fieldOf fields "rotation") with
  | error f => rfl
  | ok rotation =>
  cases (depthOf fields).wholePart with
  | error f => rfl
  | ok depth => rfl

/- The id is only noticed when a content is read. -/
theorem Content.result_ofFields
    (id other : Text)
    (elementType : Text)
    (properties : Fields) :
    (Content.ofFields id elementType properties).result =
      (Content.ofFields other elementType
        properties).result := by
  unfold Content.ofFields
  cases ElementType.ofName? elementType with
  | none => rfl
  | some type =>
      cases type with
      | _ => rfl

/- A place in a list can always be shown. -/
theorem checkNames_index
    [Machine]
    (fields : Fields)
    (i j : Nat) :
    checkNames fields (.index i) = checkNames fields (.index j) :=
  rfl

theorem Element.ofFields_unnamed
    [Machine]
    (fields : Fields)
    (i j : Nat) :
    (Element.ofFields fields (.index i)).result.map
        Element.unnamed =
      (Element.ofFields fields (.index j)).result.map
        Element.unnamed := by
  unfold Element.ofFields
  simp only [Outcome.result_bind, Outcome.result_liftM,
    Outcome.result_pure]
  rw [checkNames_index fields j i,
    Placement.ofFields_position fields (.given .null) (.index i),
    Placement.ofFields_position fields (.given .null) (.index j),
    Content.result_ofFields (elementId fields (.index j))
      (elementId fields (.index i))]
  cases checkNames fields (.index i) with
  | error f => rfl
  | ok _ =>
  cases Placement.ofFields fields (.given .null) with
  | error f => rfl
  | ok p =>
      simp only [Except.map, Outcome.ok_bind]
      cases (Content.ofFields (elementId fields (.index i))
          (elementTypeOf fields)
          (propertyFields fields)).result with
      | error f => rfl
      | ok content => rfl

------------------------------------------------------------
-- Records and Types
------------------------------------------------------------

/- One key after another is read, known or not. -/
theorem result_readProperties_cons
    {α : Type}
    (set? : α → Text → Value → Option α)
    (elementType : Text)
    (record : α)
    (key : Text)
    (v : Value)
    (rest : Fields) :
    (readProperties set? elementType record
        ((key, v) :: rest)).result =
      (readProperties set? elementType
        ((set? record (PropertyKey.normalForm key) v).getD record)
        rest).result := by
  rw [readProperties]
  cases set? record (PropertyKey.normalForm key) v with
  | some next => rfl
  | none =>
      rw [Outcome.result_bind]
      rfl

theorem ElementType.eq_name_of_ofName?
    {s : Text}
    {type : ElementType}
    (hNamed : ofName? s = some type) :
    s = type.name := by
  rw [ofName?] at hNamed
  have hName := List.find?_some hNamed
  exact (beq_iff_eq.mp hName).symm

/-
  Whether a content is one of the type of a name: with a record of
  its own when the type is known, else with the name and the
  properties as they came.
-/
inductive Content.IsOfType :
    Text → Content → Prop where
  | text
      (p : TextProperties) :
      IsOfType "text" (.text (.record p))
  | line
      (p : LineProperties) :
      IsOfType "line" (.line (.record p))
  | box
      (p : BoxProperties) :
      IsOfType "box" (.box (.record p))
  | circle
      (p : CircleProperties) :
      IsOfType "circle" (.circle (.record p))
  | image
      (p : ImageProperties) :
      IsOfType "image" (.image (.record p))
  | barcode
      (p : BarcodeProperties) :
      IsOfType "barcode" (.barcode (.record p))
  | unknown
      {elementType : Text}
      (hUnknown : ∀ type : ElementType, elementType ≠ type.name)
      (properties : Fields) :
      IsOfType elementType
        (.unknown (.text elementType) (.object properties))

/- A content is read as one of the type that is asked for. -/
theorem Content.isOfType_of_ofFields
    {id elementType : Text}
    {properties : Fields}
    {content : Content}
    (hRead :
      (Content.ofFields id elementType properties).result =
        .ok content) :
    content.IsOfType elementType := by
  have hMade :
      ∀ {α : Type} {set? : α → Text → Value → Option α}
        {record : α} (make : α → Content),
        (∀ q, (make q).IsOfType elementType) →
          (readProperties set? elementType record properties >>=
              fun p => pure (make p)).result = .ok content →
            content.IsOfType elementType := by
    intro α set? record make hMake hResult
    rw [Outcome.result_bind] at hResult
    rcases Outcome.bind_eq_ok_iff.mp hResult with ⟨q, _, hq⟩
    obtain rfl : make q = content := Except.ok.inj hq
    exact hMake q
  unfold Content.ofFields at hRead
  cases hType : ElementType.ofName? elementType with
  | none =>
      rw [hType] at hRead
      obtain rfl := Except.ok.inj hRead
      refine .unknown (fun type hName => ?_) properties
      subst hName
      cases type with
      | _ => exact absurd hType (by decide)
  | some type =>
      rw [hType] at hRead
      obtain rfl := ElementType.eq_name_of_ofName? hType
      cases type with
      | text => exact hMade _ (fun q => .text q) hRead
      | line => exact hMade _ (fun q => .line q) hRead
      | box => exact hMade _ (fun q => .box q) hRead
      | circle => exact hMade _ (fun q => .circle q) hRead
      | image => exact hMade _ (fun q => .image q) hRead
      | barcode => exact hMade _ (fun q => .barcode q) hRead

------------------------------------------------------------
-- What Is Read
------------------------------------------------------------

section Read

variable {fields : Fields}
variable {position : Position}

/- A placement that is read has numbers of its own. -/
theorem Placement.exists_numbers_of_ofFields
    {p : Placement}
    (hRead : Placement.ofFields fields position = .ok p) :
    ∃ x y width height degrees depth,
      (depthOf fields).wholePart = .ok depth ∧
        p =
          { id := .text (elementId fields position)
            x := .double x
            y := .double y
            width := .double (Double.larger 0 width)
            height := .double (Double.larger 0 height)
            rotation := .int (nearestQuarter degrees)
            zIndex := .int depth } := by
  unfold Placement.ofFields quarterTurn at hRead
  rcases Outcome.bind_eq_ok_iff.mp hRead with ⟨x, _, hRead⟩
  rcases Outcome.bind_eq_ok_iff.mp hRead with ⟨y, _, hRead⟩
  rcases Outcome.bind_eq_ok_iff.mp hRead with ⟨width, _, hRead⟩
  rcases Outcome.bind_eq_ok_iff.mp hRead with ⟨height, _, hRead⟩
  rcases Outcome.bind_eq_ok_iff.mp hRead with
    ⟨rotation, hRotation, hRead⟩
  rcases Outcome.bind_eq_ok_iff.mp hRotation with
    ⟨degrees, _, hNearest⟩
  obtain rfl : nearestQuarter degrees = rotation :=
    Except.ok.inj hNearest
  rcases Outcome.bind_eq_ok_iff.mp hRead with
    ⟨depth, hDepth, hRead⟩
  exact ⟨x, y, width, height, degrees, depth, hDepth,
    (Except.ok.inj hRead).symm⟩

/-
  An element is read where its names can be shown and where its
  placement and content are read.
-/
theorem Element.ofFields_eq_ok_iff
    [Machine]
    {e : Element} :
    (Element.ofFields fields position).result = .ok e ↔
      checkNames fields position = .ok () ∧ ∃ p content,
        Placement.ofFields fields position = .ok p ∧
          (Content.ofFields (elementId fields position)
            (elementTypeOf fields)
            (propertyFields fields)).result = .ok content ∧
          e = { p with content } := by
  simp only [Element.ofFields, Outcome.result_bind,
    Outcome.result_liftM, Outcome.bind_eq_ok_iff]
  constructor
  · rintro ⟨_, hNames, p, hPlacement, content, hContent, hMade⟩
    exact ⟨hNames, p, content, hPlacement, hContent,
      (Except.ok.inj hMade).symm⟩
  · rintro ⟨hNames, p, content, hPlacement, hContent, rfl⟩
    exact ⟨(), hNames, p, hPlacement, content, hContent, rfl⟩

end Read

------------------------------------------------------------
-- Entries
------------------------------------------------------------

namespace Entry

variable [Machine]

/- An entry that can be read, as an element or as none. -/
def Coerces
    (entry : Entry) :
    Prop :=
  ∃ e?, (entry.coerce? 0).result = .ok e?

/- The element of an entry as the first of a list, if any. -/
def coerced?
    (entry : Entry) :
    Option Element :=
  match (entry.coerce? 0).result with
  | .ok e? => e?
  | .error _ => none

/- The position of an entry shows in no more than the id. -/
theorem coerce?_unnamed
    (entry : Entry)
    (i j : Nat) :
    (entry.coerce? i).result.map
        (Option.map Element.unnamed) =
      (entry.coerce? j).result.map
        (Option.map Element.unnamed) := by
  cases entry with
  | element e => rfl
  | other kind => rfl
  | object fields =>
      have hSome :
          ∀ r : Except Fault Element,
            (r >>= fun e => .ok (some e)).map
                (Option.map Element.unnamed) =
              (r.map Element.unnamed).map some := by
        intro r
        cases r with
        | error f => rfl
        | ok e => rfl
      simp only [coerce?, Outcome.result_bind,
        Outcome.result_pure]
      rw [hSome, hSome, Element.ofFields_unnamed]

/- At any position an entry has the element it has at first. -/
theorem coerce?_eq_ok
    {entry : Entry}
    {i : Nat}
    {e? : Option Element}
    (hCoerced : (entry.coerce? i).result = .ok e?) :
    entry.Coerces ∧
      e?.map Element.unnamed =
        entry.coerced?.map Element.unnamed := by
  have hFirst := coerce?_unnamed entry i 0
  rw [hCoerced] at hFirst
  unfold Coerces coerced?
  cases h : (entry.coerce? 0).result with
  | error f =>
      rw [h] at hFirst
      cases hFirst
  | ok first =>
      rw [h] at hFirst
      exact ⟨⟨first, rfl⟩, Except.ok.inj hFirst⟩

theorem Coerces.exists_coerce?
    {entry : Entry}
    (hCoerces : entry.Coerces)
    (i : Nat) :
    ∃ e?, (entry.coerce? i).result = .ok e? := by
  rcases hCoerces with ⟨first, hFirst⟩
  have hHere := coerce?_unnamed entry i 0
  rw [hFirst] at hHere
  cases h : (entry.coerce? i).result with
  | error f =>
      rw [h] at hHere
      cases hHere
  | ok e? => exact ⟨e?, rfl⟩

end Entry

------------------------------------------------------------
-- Lists of Entries
------------------------------------------------------------

/- The elements of entries, apart from ids, are known singly. -/
theorem coerceFrom_unnamed
    [Machine]
    {index : Nat}
    {entries : List Entry}
    {es : List Element}
    (hCoerced : (coerceFrom index entries).result = .ok es) :
    (∀ entry ∈ entries, entry.Coerces) ∧
      es.map Element.unnamed =
        (entries.filterMap Entry.coerced?).map
          Element.unnamed := by
  induction entries generalizing index es with
  | nil =>
      obtain rfl : [] = es := Except.ok.inj hCoerced
      exact ⟨fun entry hMember => absurd hMember
        List.not_mem_nil, rfl⟩
  | cons entry rest ih =>
      simp only [coerceFrom, Outcome.result_bind,
        Outcome.result_pure] at hCoerced
      rcases Outcome.bind_eq_ok_iff.mp hCoerced with
        ⟨e?, hHead, hTail⟩
      rcases Outcome.bind_eq_ok_iff.mp hTail with
        ⟨later, hLater, hAll⟩
      obtain rfl : e?.toList ++ later = es :=
        Except.ok.inj hAll
      rcases Entry.coerce?_eq_ok hHead with
        ⟨hCoerces, hSame⟩
      rcases ih hLater with ⟨hRest, hOthers⟩
      constructor
      · intro x hMember
        rcases List.mem_cons.mp hMember with rfl | hIn
        · exact hCoerces
        · exact hRest x hIn
      · have hFront :
            (entry :: rest).filterMap Entry.coerced? =
              entry.coerced?.toList ++
                rest.filterMap Entry.coerced? := by
          rw [List.filterMap_cons]
          cases entry.coerced? with
          | none => rfl
          | some e => rfl
        rw [hFront, List.map_append, List.map_append, hOthers,
          ← Option.toList_map, ← Option.toList_map, hSame]

/- The contents of elements are those of their entries. -/
theorem contents_of_coerceFrom
    [Machine]
    {index : Nat}
    {entries : List Entry}
    {es : List Element}
    (hCoerced : (coerceFrom index entries).result = .ok es) :
    es.map Element.content =
      (entries.filterMap Entry.coerced?).map Element.content := by
  have hContents :=
    congrArg (List.map Element.content)
      (coerceFrom_unnamed hCoerced).2
  rw [List.map_map, List.map_map] at hContents
  exact hContents

/- Entries that can be read one by one can be read together. -/
theorem exists_coerceFrom
    [Machine]
    {entries : List Entry}
    (hCoerces : ∀ entry ∈ entries, entry.Coerces)
    (index : Nat) :
    ∃ es, (coerceFrom index entries).result = .ok es := by
  induction entries generalizing index with
  | nil => exact ⟨[], rfl⟩
  | cons entry rest ih =>
      have hRest : ∀ x ∈ rest, x.Coerces := fun x hMember =>
        hCoerces x (List.mem_cons_of_mem entry hMember)
      rcases (hCoerces entry
        List.mem_cons_self).exists_coerce? index with
        ⟨e?, hHead⟩
      rcases ih hRest (index + 1) with ⟨later, hLater⟩
      refine ⟨e?.toList ++ later, ?_⟩
      simp only [coerceFrom, Outcome.result_bind,
        Outcome.result_pure, hHead, hLater, Outcome.ok_bind]

/- Elements are entries that are not changed on the way in. -/
theorem coerceFrom_elements
    [Machine]
    (index : Nat)
    (es : List Element) :
    (coerceFrom index (es.map Entry.element)).result =
      .ok es := by
  induction es generalizing index with
  | nil => rfl
  | cons e es ih =>
      rw [List.map_cons, coerceFrom]
      simp only [Entry.coerce?, Outcome.result_bind,
        Outcome.result_ok, Outcome.ok_bind, ih]
      rfl

end LabelPress

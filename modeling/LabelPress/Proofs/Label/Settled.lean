import LabelPress.Machine.Usual
import LabelPress.Proofs.Label.Document
import LabelPress.Proofs.Label.QuarterTurns
import LabelPress.Proofs.Stream.Emission
import LabelPress.Proofs.Substitution.Staged
import LabelPress.Proofs.Value.Display
import Mathlib.Data.List.Perm.Basic

/-
  Elements that are settled.

  An element that is read from an object has an id, numbers in
  their proper ranges, and the content of the type that the
  object names.  Substitution changes no more than texts within a
  content, and sorting moves elements, so that all of this stays
  however often the elements are passed on.

  Main declarations:
    * `Element.IsSettled`
    * `Element.isSettled_of_ofFields`
    * `Element.IsSettled.substitute`
    * `Reached`, `Reached.exists_origins`
    * `Element.settled_reached`
-/

namespace LabelPress

------------------------------------------------------------
-- Numbers
------------------------------------------------------------

namespace Double

/- What is raised to zero is defined and not below zero. -/
theorem larger_zero
    (x : Double) :
    (larger 0 x).isNaN = false ∧ le 0 (larger 0 x) = true := by
  unfold larger
  split_ifs with hAbove
  · refine ⟨?_, ?_⟩
    · cases x with
      | nan => exact absurd hAbove (by decide)
      | _ => rfl
    · rw [le, Bool.or_eq_true]
      exact .inl hAbove
  · decide +kernel

end Double

/- A double that is defined and not below zero. -/
def Value.IsExtent
    (v : Value) :
    Prop :=
  ∃ x, v = .double x ∧
    x.isNaN = false ∧ Double.le 0 x = true

------------------------------------------------------------
-- Types
------------------------------------------------------------

/- Substitution makes records of records. -/
theorem Content.isOfType_of_stored
    [Machine]
    {α : Type}
    {b : Bindings}
    {elementType : Text}
    {wrap : Stored α → Content}
    {f : α → Outcome α}
    {p : α}
    {content : Content}
    (hWrap : ∀ q, (wrap (.record q)).IsOfType elementType)
    (hContent :
      (do return wrap (← (Stored.record p).substitute b f) :
        Outcome Content).result = .ok content) :
    content.IsOfType elementType := by
  rw [Outcome.result_bind, Stored.substitute,
    Outcome.result_bind] at hContent
  rcases Outcome.bind_eq_ok_iff.mp hContent with
    ⟨stored, hStored, hMade⟩
  rcases Outcome.bind_eq_ok_iff.mp hStored with
    ⟨q, _, hRecord⟩
  obtain rfl : Stored.record q = stored := Except.ok.inj hRecord
  obtain rfl : wrap (.record q) = content := Except.ok.inj hMade
  exact hWrap q

/- Substitution keeps the type of a content. -/
theorem Content.IsOfType.substitute
    [Machine]
    {b : Bindings}
    {elementType : Text}
    {content later : Content}
    (hType : content.IsOfType elementType)
    (hLater : (content.substitute b).result = .ok later) :
    later.IsOfType elementType := by
  cases hType with
  | text p => exact isOfType_of_stored (fun q => .text q) hLater
  | line p => exact isOfType_of_stored (fun q => .line q) hLater
  | box p => exact isOfType_of_stored (fun q => .box q) hLater
  | circle p =>
      exact isOfType_of_stored (fun q => .circle q) hLater
  | image p =>
      exact isOfType_of_stored (fun q => .image q) hLater
  | barcode p =>
      exact isOfType_of_stored (fun q => .barcode q) hLater
  | unknown hUnknown properties =>
      rw [Content.substitute, Outcome.result_bind,
        substituteLoose, Outcome.result_bind] at hLater
      rcases Outcome.bind_eq_ok_iff.mp hLater with
        ⟨loose, hLoose, hMade⟩
      rcases Outcome.bind_eq_ok_iff.mp hLoose with
        ⟨fields, _, hObject⟩
      obtain rfl : Value.object fields = loose :=
        Except.ok.inj hObject
      obtain rfl := Except.ok.inj hMade
      exact .unknown hUnknown fields

------------------------------------------------------------
-- Elements
------------------------------------------------------------

theorem elementId_ne_nil
    (fields : Fields)
    (position : Position) :
    elementId fields position ≠ [] := by
  unfold elementId
  split_ifs with hNone
  · exact List.append_ne_nil_of_left_ne_nil (by decide) _
  · rw [lacksId, Bool.or_eq_true, not_or] at hNone
    exact Value.toText_ne_nil (Bool.eq_false_of_not_eq_true hNone.2)

namespace Element

variable [Machine]

/- What holds of an element of some type from when it is read. -/
structure IsSettled
    (elementType : Text)
    (e : Element) :
    Prop where
  id : ∃ s, e.id = .text s ∧ s ≠ []
  x : ∃ x, e.x = .double x
  y : ∃ y, e.y = .double y
  width : e.width.IsExtent
  height : e.height.IsExtent
  rotation :
    ∃ degrees ∈ ([0, 90, 180, 270] : List Int),
      e.rotation = .int degrees
  zIndex : ∃ depth, e.zIndex = .int depth
  content : e.content.IsOfType elementType

theorem isSettled_of_ofFields
    {fields : Fields}
    {position : Position}
    {e : Element}
    (hRead : (Element.ofFields fields position).result = .ok e) :
    e.IsSettled (elementTypeOf fields) := by
  rcases ofFields_eq_ok_iff.mp hRead with
    ⟨_, p, content, hPlacement, hContent, rfl⟩
  rcases Placement.exists_numbers_of_ofFields hPlacement with
    ⟨x, y, width, height, degrees, depth, _, rfl⟩
  exact
    { id := ⟨_, rfl, elementId_ne_nil fields position⟩
      x := ⟨x, rfl⟩
      y := ⟨y, rfl⟩
      width := ⟨_, rfl, Double.larger_zero width⟩
      height := ⟨_, rfl, Double.larger_zero height⟩
      rotation := ⟨_, nearestQuarter_mem degrees, rfl⟩
      zIndex := ⟨depth, rfl⟩
      content := Content.isOfType_of_ofFields hContent }

theorem IsSettled.substitute
    {b : Bindings}
    {elementType : Text}
    {e later : Element}
    (hSettled : e.IsSettled elementType)
    (hLater : (e.substitute b).result = .ok later) :
    later.IsSettled elementType := by
  rw [Element.substitute, Outcome.result_bind] at hLater
  rcases Outcome.bind_eq_ok_iff.mp hLater with
    ⟨content, hContent, hMade⟩
  obtain rfl : { e with content } = later := Except.ok.inj hMade
  exact
    { hSettled with
      content := hSettled.content.substitute hContent }

end Element

------------------------------------------------------------
-- Passes
------------------------------------------------------------

/-
  The lists of elements that are reached from objects: read from
  them, substituted, sorted by depth, and followed by elements
  that are read from more objects, again and again.
-/
inductive Reached
    [Machine] :
    List Fields → List Element → Prop where
  | coerced
      {rows : List Fields}
      {es : List Element}
      (hCoerced :
        (coerceEntries (rows.map .object)).result = .ok es) :
      Reached rows es
  | substituted
      {rows : List Fields}
      {es later : List Element}
      (b : Bindings)
      (hReached : Reached rows es)
      (hLater :
        (substitute (.entries (es.map .element)) b).result =
          .ok later) :
      Reached rows later
  | sorted
      {rows : List Fields}
      {es later : List Element}
      (hReached : Reached rows es)
      (hLater : sortByDepth es = .ok later) :
      Reached rows later
  | extended
      {rows more : List Fields}
      {es later : List Element}
      (index : Nat)
      (hReached : Reached rows es)
      (hLater :
        (coerceFrom index (more.map .object)).result =
          .ok later) :
      Reached (rows ++ more) (es ++ later)

/- Whether elements are settled as the types of objects say. -/
def AreSettled
    (rows : List Fields)
    (es : List Element) :
    Prop :=
  List.Forall₂ (fun row e => e.IsSettled (elementTypeOf row))
    rows es

theorem areSettled_of_coerceFrom
    [Machine]
    {index : Nat}
    {rows : List Fields}
    {es : List Element}
    (hCoerced :
      (coerceFrom index (rows.map .object)).result = .ok es) :
    AreSettled rows es :=
  (coerceFrom_objects hCoerced).imp fun _ _ ⟨_, hRead⟩ =>
    Element.isSettled_of_ofFields hRead

theorem AreSettled.substitute
    [Machine]
    {b : Bindings}
    {rows : List Fields}
    {es later : List Element}
    (hSettled : AreSettled rows es)
    (hLater :
      (LabelPress.substitute (.entries (es.map .element))
        b).result = .ok later) :
    AreSettled rows later := by
  rw [result_substitute_entries, coerceEntries,
    coerceFrom_elements, Outcome.ok_bind,
    Outcome.mapM_eq_ok_iff_forall₂] at hLater
  induction hSettled generalizing later with
  | nil =>
      cases hLater
      exact .nil
  | cons hFirst _ ih =>
      cases hLater with
      | cons hHead hRest =>
          exact .cons (hFirst.substitute hHead) (ih hRest)

/-
  Every element that is reached is settled as the type of the
  object that it comes from says.  Only sorting takes elements out
  of the order of their objects.
-/
theorem Reached.exists_origins
    [Machine]
    {rows : List Fields}
    {es : List Element}
    (hReached : Reached rows es) :
    ∃ origins, origins.Perm rows ∧ AreSettled origins es := by
  induction hReached with
  | coerced hCoerced =>
      exact ⟨_, .refl _, areSettled_of_coerceFrom hCoerced⟩
  | substituted b _ hLater ih =>
      rcases ih with ⟨origins, hOrigins, hSettled⟩
      exact ⟨origins, hOrigins, hSettled.substitute hLater⟩
  | @sorted rows es later _ hLater ih =>
      rcases ih with ⟨origins, hOrigins, hSettled⟩
      obtain rfl := (sortByDepth_eq_ok_iff.mp hLater).2
      rcases List.perm_comp_forall₂ (perm_inDepthOrder es)
        hSettled.flip with ⟨moved, hMoved, hPerm⟩
      exact ⟨moved, hPerm.trans hOrigins, hMoved.flip⟩
  | extended index _ hLater ih =>
      rcases ih with ⟨origins, hOrigins, hSettled⟩
      exact ⟨_, hOrigins.append_right _,
        List.rel_append hSettled
          (areSettled_of_coerceFrom hLater)⟩

/- Reading a list of elements again leaves it, without notice. -/
theorem coerceEntries_elements
    [Machine]
    (es : List Element) :
    coerceEntries (es.map .element) = .ok es := by
  have hFrom :
      ∀ index, coerceFrom index (es.map .element) = .ok es := by
    induction es with
    | nil => exact fun _ => rfl
    | cons e es ih =>
        intro index
        rw [List.map_cons, coerceFrom, ih]
        rfl
  exact hFrom 0

/-
  An element that is read from an object is settled.  So are all
  elements of a list that passes reach, which is left as it is by
  reading it again.
-/
theorem Element.settled_reached
    [Machine] :
    (∀ fields position e,
      (Element.ofFields fields position).result = .ok e →
        e.IsSettled (elementTypeOf fields)) ∧
    (∀ rows es, Reached rows es →
      (∃ origins, origins.Perm rows ∧ AreSettled origins es) ∧
        coerceEntries (es.map .element) = .ok es) :=
  ⟨fun _ _ _ hRead => isSettled_of_ofFields hRead,
    fun _ es hReached =>
      ⟨hReached.exists_origins, coerceEntries_elements es⟩⟩

/- A text whose fields are of unexpected kinds. -/
def looseText : Fields :=
  [("type", .text " TEXT "), ("width", .double .nan),
    ("rotation", .text "450"), ("zIndex", .text "7"),
    ("properties",
      .object [("text", .text "\x7b\x7ba\x7d\x7d")])]

/- An object of a type that is not known. -/
def looseStar : Fields :=
  [("type", .text "star "), ("id", .int 5), ("x", .text "nan")]

/- The element of the text, with what it shows. -/
def looseTextElement
    (shown : Text) :
    Element where
  id := .text "element_0"
  rotation := .int 90
  zIndex := .int 7
  content := .text (.record { text := .text shown })

/- The element of the object of a type that is not known. -/
def looseStarElement :
    Element where
  id := .text "5"
  x := .double .nan
  content := .unknown (.text "star") (.object [])

/-
  A text is read, its variable is filled in, an element of unknown
  type comes after it, and the two are sorted.
-/
theorem Element.settled_reached_loose :
    looseStarElement.IsSettled (elementTypeOf looseStar) ∧
      Reached [looseText, looseStar]
        [looseStarElement, looseTextElement "hi"] ∧
      (∃ origins : List Fields,
        origins.Perm [looseText, looseStar] ∧
          AreSettled origins
            [looseStarElement, looseTextElement "hi"]) ∧
      coerceEntries
          [.element looseStarElement,
            .element (looseTextElement "hi")] =
        .ok [looseStarElement, looseTextElement "hi"] := by
  have hStar :
      (Element.ofFields looseStar (.index 1)).result =
        .ok looseStarElement := by
    rfl
  have hText :
      Reached [looseText]
        [looseTextElement "\x7b\x7ba\x7d\x7d"] :=
    .coerced rfl
  have hFilled : Reached [looseText] [looseTextElement "hi"] :=
    .substituted (.table [("a", .data (.text "hi"))]) hText rfl
  have hMore :
      (coerceFrom 1 ([looseStar].map .object)).result =
        .ok [looseStarElement] := by
    rfl
  have hBoth :
      Reached [looseText, looseStar]
        [looseTextElement "hi", looseStarElement] :=
    .extended 1 hFilled hMore
  have hReached :
      Reached [looseText, looseStar]
        [looseStarElement, looseTextElement "hi"] :=
    .sorted hBoth rfl
  exact ⟨settled_reached.1 looseStar (.index 1) _ hStar, hReached,
    settled_reached.2 _ _ hReached⟩

end LabelPress

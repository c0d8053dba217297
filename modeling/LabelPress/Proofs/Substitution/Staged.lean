import LabelPress.Machine.Usual
import LabelPress.Proofs.Label.Coercion
import LabelPress.Proofs.Placeholder.Rescan
import LabelPress.Proofs.Value.Fields
import LabelPress.Variable.Usage

/-
  Substitution in two stages.

  Elements that are resolved with one table of bindings and then
  with another come out as if both tables had been laid over
  each other, as long as the first brings in no braces.

  Main declarations:
    * `placeholdersOf`
    * `Content.substitute_substitute`
    * `substitute_staged`
-/

namespace LabelPress

section Stages

variable [Machine]
variable {m b₁ b₂ : Bindings}

------------------------------------------------------------
-- Keys of an Object
------------------------------------------------------------

theorem result_substituteKeys_cons
    (b : Bindings)
    (fields : Fields)
    (key : Text)
    (keys : List Text) :
    (substituteKeys b fields (key :: keys)).result =
      match fields.get? key with
      | some v =>
          (resolve v b).result >>= fun w =>
            (substituteKeys b (fields.set key w) keys).result
      | none => (substituteKeys b fields keys).result := by
  rw [substituteKeys]
  cases fields.get? key with
  | none => rfl
  | some v => rw [Outcome.result_bind]

/- Fields under other keys are left as they are. -/
theorem get?_of_substituteKeys
    {b : Bindings}
    {fields changed : Fields}
    {keys : List Text}
    {key : Text}
    (hKey : key ∉ keys)
    (hChanged :
      (substituteKeys b fields keys).result = .ok changed) :
    changed.get? key = fields.get? key := by
  induction keys generalizing fields with
  | nil =>
      obtain rfl : fields = changed := Except.ok.inj hChanged
      rfl
  | cons k keys ih =>
      rw [List.mem_cons, not_or] at hKey
      rw [result_substituteKeys_cons] at hChanged
      cases hGet : fields.get? k with
      | none =>
          rw [hGet] at hChanged
          exact ih hKey.2 hChanged
      | some v =>
          rw [hGet] at hChanged
          rcases Outcome.bind_eq_ok_iff.mp hChanged with
            ⟨w, _, hRest⟩
          rw [ih hKey.2 hRest,
            Fields.get?_set_of_ne (Ne.symm hKey.1)]

/- A field under another key can be set before or after. -/
theorem substituteKeys_set
    {b : Bindings}
    {fields changed : Fields}
    {keys : List Text}
    {key : Text}
    {u : Value}
    (hKey : key ∉ keys)
    (hPresent : fields.get? key = some u)
    (hChanged :
      (substituteKeys b fields keys).result = .ok changed)
    (v : Value) :
    (substituteKeys b (fields.set key v) keys).result =
      .ok (changed.set key v) := by
  induction keys generalizing fields with
  | nil =>
      obtain rfl : fields = changed := Except.ok.inj hChanged
      rfl
  | cons k keys ih =>
      rw [List.mem_cons, not_or] at hKey
      rw [result_substituteKeys_cons] at hChanged ⊢
      rw [Fields.get?_set_of_ne hKey.1]
      cases hGet : fields.get? k with
      | none =>
          rw [hGet] at hChanged
          exact ih hKey.2 hPresent hChanged
      | some x =>
          rw [hGet] at hChanged
          rcases Outcome.bind_eq_ok_iff.mp hChanged with
            ⟨w, hResolve, hRest⟩
          have hStill : (fields.set k w).get? key = some u := by
            rw [Fields.get?_set_of_ne (Ne.symm hKey.1),
              hPresent]
          simp only [hResolve, Outcome.ok_bind]
          rw [Fields.set_comm hKey.1 hPresent]
          exact ih hKey.2 hStill hRest

/-
  Resolving the fields under some keys twice is resolving them
  with both tables.
-/
theorem substituteKeys_substituteKeys
    {fields changed : Fields}
    {keys : List Text}
    (hOverlays : m.Overlays b₁ b₂)
    (hNodup : keys.Nodup)
    (hBraceless :
      ∀ key ∈ keys, ∀ v, fields.get? key = some v →
        ∀ p ∈ references v, b₁.RendersBraceless p)
    (hFirst :
      (substituteKeys b₁ fields keys).result = .ok changed) :
    (substituteKeys b₂ changed keys).result =
      (substituteKeys m fields keys).result := by
  induction keys generalizing fields changed with
  | nil =>
      obtain rfl : fields = changed := Except.ok.inj hFirst
      rfl
  | cons key keys ih =>
      rw [List.nodup_cons] at hNodup
      rw [result_substituteKeys_cons] at hFirst
      rw [result_substituteKeys_cons,
        result_substituteKeys_cons]
      cases hGet : fields.get? key with
      | none =>
          rw [hGet] at hFirst
          rw [get?_of_substituteKeys hNodup.1 hFirst, hGet]
          apply ih hNodup.2 _ hFirst
          intro k hMember
          exact hBraceless k (List.mem_cons_of_mem key hMember)
      | some v =>
          rw [hGet] at hFirst
          rcases Outcome.bind_eq_ok_iff.mp hFirst with
            ⟨w, hResolve, hRest⟩
          have hValue :
              (resolve w b₂).result = (resolve v m).result :=
            resolve_resolve hOverlays
              (hBraceless key List.mem_cons_self v hGet)
              hResolve
          rw [get?_of_substituteKeys hNodup.1 hRest,
            Fields.get?_set_self]
          simp only [hValue]
          congr 1
          funext x
          -- both stages reach the field with its last value
          have hLast := substituteKeys_set hNodup.1
            (Fields.get?_set_self fields key w) hRest x
          rw [Fields.set_set] at hLast
          apply ih hNodup.2 _ hLast
          intro k hMember y hField
          have hOther : key ≠ k := by
            rintro rfl
            exact hNodup.1 hMember
          rw [Fields.get?_set_of_ne hOther] at hField
          exact hBraceless k
            (List.mem_cons_of_mem key hMember) y hField

------------------------------------------------------------
-- Keys that Must Not Change
------------------------------------------------------------

theorem result_changesKeys_cons
    (b : Bindings)
    (fields : Fields)
    (key : Text)
    (keys : List Text) :
    (changesKeys b fields (key :: keys)).result =
      match fields.get? key with
      | some v =>
          (resolve v b).result >>= fun w =>
            (changesKeys b fields keys).result >>= fun later =>
              .ok (v.isChangedTo w || later)
      | none => (changesKeys b fields keys).result := by
  rw [changesKeys]
  cases fields.get? key with
  | none => rfl
  | some v =>
      simp only [Outcome.result_bind, Outcome.result_pure]

/- What resolving does not change is the value itself. -/
theorem eq_of_isChangedTo
    {b : Bindings}
    {v w : Value}
    (hResolve : (resolve v b).result = .ok w)
    (hSame : v.isChangedTo w = false) :
    w = v := by
  cases v with
  | text s =>
      rw [result_resolve_text] at hResolve
      rcases Outcome.bind_eq_ok_iff.mp hResolve with
        ⟨t, _, hValue⟩
      obtain rfl : Value.text t = w := Except.ok.inj hValue
      have hText : s = t := by
        simpa [Value.isChangedTo] using hSame
      rw [hText]
  | _ => exact (Except.ok.inj hResolve).symm

/-
  Fields that a first table leaves as they are change with a
  second one as they do with both.
-/
theorem changesKeys_changesKeys
    {fields : Fields}
    {keys : List Text}
    (hOverlays : m.Overlays b₁ b₂)
    (hBraceless :
      ∀ key ∈ keys, ∀ v, fields.get? key = some v →
        ∀ p ∈ references v, b₁.RendersBraceless p)
    (hFirst :
      (changesKeys b₁ fields keys).result = .ok false) :
    (changesKeys b₂ fields keys).result =
      (changesKeys m fields keys).result := by
  induction keys with
  | nil => rfl
  | cons key keys ih =>
      have hRest :
          ∀ k ∈ keys, ∀ v, fields.get? k = some v →
            ∀ p ∈ references v, b₁.RendersBraceless p := by
        intro k hMember
        exact hBraceless k (List.mem_cons_of_mem key hMember)
      rw [result_changesKeys_cons] at hFirst
      rw [result_changesKeys_cons, result_changesKeys_cons]
      cases hGet : fields.get? key with
      | none =>
          rw [hGet] at hFirst
          exact ih hRest hFirst
      | some v =>
          rw [hGet] at hFirst
          rcases Outcome.bind_eq_ok_iff.mp hFirst with
            ⟨w, hResolve, hTail⟩
          rcases Outcome.bind_eq_ok_iff.mp hTail with
            ⟨later, hLater, hNone⟩
          have hNeither :
              v.isChangedTo w = false ∧ later = false := by
            simpa using Except.ok.inj hNone
          rw [hNeither.2] at hLater
          obtain rfl : w = v :=
            eq_of_isChangedTo hResolve hNeither.1
          have hValue :
              (resolve w b₂).result = (resolve w m).result :=
            resolve_resolve hOverlays
              (hBraceless key List.mem_cons_self w hGet)
              hResolve
          simp only [hValue, ih hRest hLater]

theorem result_keepFields_eq_ok_iff
    {b : Bindings}
    {fields : Fields} :
    (keepFields b fields).result = .ok () ↔
      (changesKeys b fields textBearing).result =
        .ok false := by
  rw [keepFields, Outcome.result_bind]
  cases (changesKeys b fields textBearing).result with
  | error f => simp
  | ok changes =>
      cases changes with
      | true => simp [Outcome.fail]
      | false => simp

/- What resolving keeps with a first table. -/
theorem keepFields_keepFields
    {fields : Fields}
    (hOverlays : m.Overlays b₁ b₂)
    (hBraceless :
      ∀ key ∈ textBearing, ∀ v, fields.get? key = some v →
        ∀ p ∈ references v, b₁.RendersBraceless p)
    (hFirst : (keepFields b₁ fields).result = .ok ()) :
    (keepFields b₂ fields).result =
      (keepFields m fields).result := by
  rw [keepFields, keepFields, Outcome.result_bind,
    Outcome.result_bind,
    changesKeys_changesKeys hOverlays hBraceless
      (result_keepFields_eq_ok_iff.mp hFirst)]

------------------------------------------------------------
-- Contents
------------------------------------------------------------

/- The placeholders under a key are among those of the fields. -/
omit [Machine] in
theorem mem_references_fieldOf
    {fields : Fields}
    {key : Text}
    {v : Value}
    {p : Placeholder}
    (hKey : key ∈ textBearing)
    (hGet : fields.get? key = some v)
    (hMember : p ∈ references v) :
    p ∈ (textBearing.map (Value.fieldOf fields)).flatMap
      references := by
  exact List.mem_flatMap.mpr
    ⟨v, mem_map_fieldOf hKey hGet, hMember⟩

/- Two resolutions of what stands for a record are one. -/
theorem substituteForeign_substituteForeign
    {v w : Value}
    (hOverlays : m.Overlays b₁ b₂)
    (hBraceless :
      ∀ p ∈ v.textValues.flatMap references,
        b₁.RendersBraceless p)
    (hFirst : (substituteForeign b₁ v).result = .ok w) :
    (substituteForeign b₂ w).result =
      (substituteForeign m v).result := by
  cases v with
  | object fields =>
      rw [substituteForeign, Outcome.result_bind] at hFirst
      rcases Outcome.bind_eq_ok_iff.mp hFirst with
        ⟨_, hKept, hObject⟩
      obtain rfl : Value.object fields = w :=
        Except.ok.inj hObject
      simp only [substituteForeign, Outcome.result_bind]
      rw [keepFields_keepFields hOverlays _ hKept]
      intro key hKey v hGet p hMember
      exact hBraceless p
        (mem_references_fieldOf hKey hGet hMember)
  | record kind fields =>
      cases kind with
      | properties type =>
          rw [substituteForeign, Outcome.result_bind] at hFirst
          rcases Outcome.bind_eq_ok_iff.mp hFirst with
            ⟨next, hFields, hRecord⟩
          obtain rfl :
              Value.record (.properties type) next = w :=
            Except.ok.inj hRecord
          simp only [substituteForeign, Outcome.result_bind]
          rw [substituteKeys_substituteKeys hOverlays
            (by decide) _ hFields]
          intro key hKey v hGet p hMember
          exact hBraceless p
            (mem_references_fieldOf hKey hGet hMember)
      | _ =>
          obtain rfl := Except.ok.inj hFirst
          rfl
  | _ =>
      obtain rfl := Except.ok.inj hFirst
      rfl

/- Two resolutions of properties of an unknown type are one. -/
theorem substituteLoose_substituteLoose
    {v w : Value}
    (hOverlays : m.Overlays b₁ b₂)
    (hBraceless :
      ∀ p ∈ v.textValues.flatMap references,
        b₁.RendersBraceless p)
    (hFirst : (substituteLoose b₁ v).result = .ok w) :
    (substituteLoose b₂ w).result =
      (substituteLoose m v).result := by
  cases v with
  | object fields =>
      rw [substituteLoose, Outcome.result_bind] at hFirst
      rcases Outcome.bind_eq_ok_iff.mp hFirst with
        ⟨next, hFields, hObject⟩
      obtain rfl : Value.object next = w :=
        Except.ok.inj hObject
      simp only [substituteLoose, Outcome.result_bind]
      rw [substituteKeys_substituteKeys hOverlays
        (by decide) _ hFields]
      intro key hKey v hGet p hMember
      exact hBraceless p
        (mem_references_fieldOf hKey hGet hMember)
  | record kind fields =>
      cases kind with
      | properties type =>
          rw [substituteLoose, Outcome.result_bind] at hFirst
          rcases Outcome.bind_eq_ok_iff.mp hFirst with
            ⟨_, hKept, hRecord⟩
          obtain rfl :
              Value.record (.properties type) fields = w :=
            Except.ok.inj hRecord
          simp only [substituteLoose, Outcome.result_bind]
          rw [keepFields_keepFields hOverlays _ hKept]
          intro key hKey v hGet p hMember
          exact hBraceless p
            (mem_references_fieldOf hKey hGet hMember)
      | _ =>
          obtain rfl := Except.ok.inj hFirst
          rfl
  | _ =>
      obtain rfl := Except.ok.inj hFirst
      rfl

/-
  Two resolutions of a stored record are one, if they are one on
  the record that it is.
-/
theorem Stored.substitute_substitute
    {α : Type}
    {values : α → List Value}
    {f g h : α → Outcome α}
    {stored changed : Stored α}
    (hOverlays : m.Overlays b₁ b₂)
    (hBraceless :
      ∀ p ∈ (stored.textValues values).flatMap references,
        b₁.RendersBraceless p)
    (hStep :
      ∀ p q, stored = .record p → (f p).result = .ok q →
        (g q).result = (h p).result)
    (hFirst : (stored.substitute b₁ f).result = .ok changed) :
    (changed.substitute b₂ g).result =
      (stored.substitute m h).result := by
  cases stored with
  | foreign v =>
      rw [Stored.substitute, Outcome.result_bind] at hFirst
      rcases Outcome.bind_eq_ok_iff.mp hFirst with
        ⟨w, hForeign, hChanged⟩
      obtain rfl : Stored.foreign w = changed :=
        Except.ok.inj hChanged
      simp only [Stored.substitute, Outcome.result_bind]
      rw [substituteForeign_substituteForeign hOverlays
        hBraceless hForeign]
  | record p =>
      rw [Stored.substitute, Outcome.result_bind] at hFirst
      rcases Outcome.bind_eq_ok_iff.mp hFirst with
        ⟨q, hq, hRecord⟩
      obtain rfl : Stored.record q = changed :=
        Except.ok.inj hRecord
      simp only [Stored.substitute, Outcome.result_bind,
        hStep p q rfl hq]

/- A record without text-bearing properties stays as it is. -/
theorem Stored.substitute_plain
    {α : Type}
    (wrap : Stored α → Content)
    {stored : Stored α}
    {changed : Content}
    (hOverlays : m.Overlays b₁ b₂)
    (hBraceless :
      ∀ p ∈ (stored.textValues fun _ => []).flatMap references,
        b₁.RendersBraceless p)
    (hFirst :
      (do
        let next ← stored.substitute b₁ Outcome.ok
        return wrap next : Outcome Content).result =
        .ok changed) :
    ∃ next, wrap next = changed ∧
      (do
        let last ← next.substitute b₂ Outcome.ok
        return wrap last : Outcome Content).result =
      (do
        let last ← stored.substitute m Outcome.ok
        return wrap last : Outcome Content).result := by
  rw [Outcome.result_bind] at hFirst
  rcases Outcome.bind_eq_ok_iff.mp hFirst with
    ⟨next, hStored, hContent⟩
  refine ⟨next, Except.ok.inj hContent, ?_⟩
  rw [Outcome.result_bind, Outcome.result_bind]
  congr 1
  refine Stored.substitute_substitute hOverlays hBraceless
    ?_ hStored
  intro p q _ hq
  obtain rfl : p = q := Except.ok.inj hq
  rfl

/-
  Two resolutions of one property of a stored record are one,
  for a content of any type that holds such a record.
-/
theorem Stored.substitute_property
    {α : Type}
    (wrap : Stored α → Content)
    (get : α → Value)
    (set : α → Value → α)
    {stored : Stored α}
    {changed : Content}
    (hOverlays : m.Overlays b₁ b₂)
    (hBraceless :
      ∀ p ∈ (stored.textValues fun r => [get r]).flatMap
          references,
        b₁.RendersBraceless p)
    (hGet : ∀ p v, get (set p v) = v)
    (hSet : ∀ p v w, set (set p v) w = set p w)
    (hFirst :
      (do
        let next ← stored.substitute b₁ fun p => do
          return set p (← resolve (get p) b₁)
        return wrap next : Outcome Content).result =
        .ok changed) :
    ∃ next, wrap next = changed ∧
      (do
        let last ← next.substitute b₂ fun p => do
          return set p (← resolve (get p) b₂)
        return wrap last : Outcome Content).result =
      (do
        let last ← stored.substitute m fun p => do
          return set p (← resolve (get p) m)
        return wrap last : Outcome Content).result := by
  rw [Outcome.result_bind] at hFirst
  rcases Outcome.bind_eq_ok_iff.mp hFirst with
    ⟨next, hStored, hContent⟩
  refine ⟨next, Except.ok.inj hContent, ?_⟩
  rw [Outcome.result_bind, Outcome.result_bind]
  congr 1
  refine Stored.substitute_substitute hOverlays hBraceless
    ?_ hStored
  rintro p q rfl hq
  rw [Outcome.result_bind] at hq ⊢
  rcases Outcome.bind_eq_ok_iff.mp hq with
    ⟨w, hResolve, hSame⟩
  obtain rfl : set p w = q := Except.ok.inj hSame
  have hInner :
      ∀ r ∈ references (get p), b₁.RendersBraceless r := by
    simpa [Stored.textValues] using hBraceless
  rw [hGet, Outcome.result_bind,
    resolve_resolve hOverlays hInner hResolve]
  simp only [hSet]

/- Resolving a content twice is resolving it with both tables. -/
theorem Content.substitute_substitute
    {content changed : Content}
    (hOverlays : m.Overlays b₁ b₂)
    (hBraceless :
      ∀ p ∈ content.textValues.flatMap references,
        b₁.RendersBraceless p)
    (hFirst : (content.substitute b₁).result = .ok changed) :
    (changed.substitute b₂).result =
      (content.substitute m).result := by
  cases content with
  | text stored =>
      rcases Stored.substitute_property Content.text
          TextProperties.text (fun p text => { p with text })
          hOverlays hBraceless (fun _ _ => rfl)
          (fun _ _ _ => rfl) hFirst with
        ⟨next, rfl, hSame⟩
      exact hSame
  | image stored =>
      rcases Stored.substitute_property Content.image
          ImageProperties.src (fun p src => { p with src })
          hOverlays hBraceless (fun _ _ => rfl)
          (fun _ _ _ => rfl) hFirst with
        ⟨next, rfl, hSame⟩
      exact hSame
  | barcode stored =>
      rcases Stored.substitute_property Content.barcode
          BarcodeProperties.data
          (fun p data => { p with data })
          hOverlays hBraceless (fun _ _ => rfl)
          (fun _ _ _ => rfl) hFirst with
        ⟨next, rfl, hSame⟩
      exact hSame
  | line stored =>
      rcases Stored.substitute_plain Content.line hOverlays
          hBraceless hFirst with
        ⟨next, rfl, hSame⟩
      exact hSame
  | box stored =>
      rcases Stored.substitute_plain Content.box hOverlays
          hBraceless hFirst with
        ⟨next, rfl, hSame⟩
      exact hSame
  | circle stored =>
      rcases Stored.substitute_plain Content.circle hOverlays
          hBraceless hFirst with
        ⟨next, rfl, hSame⟩
      exact hSame
  | unknown elementType properties =>
      rw [substitute, Outcome.result_bind] at hFirst
      rcases Outcome.bind_eq_ok_iff.mp hFirst with
        ⟨next, hLoose, hContent⟩
      obtain rfl :
          Content.unknown elementType next = changed :=
        Except.ok.inj hContent
      rw [substitute, substitute, Outcome.result_bind,
        Outcome.result_bind,
        substituteLoose_substituteLoose hOverlays hBraceless
          hLoose]
  | bare =>
      obtain rfl := Except.ok.inj hFirst
      rfl

------------------------------------------------------------
-- Elements
------------------------------------------------------------

theorem result_substitute_entries
    (entries : List Entry)
    (b : Bindings) :
    (substitute (.entries entries) b).result =
      (coerceEntries entries).result >>= fun es =>
        es.mapM fun e => (e.substitute b).result := by
  unfold substitute
  simp only [Outcome.result_bind, Outcome.result_each]
  rfl

/- The placeholders in the elements of entries. -/
def placeholdersOf
    (entries : List Entry) :
    List Placeholder :=
  match (coerceEntries entries).result with
  | .ok es =>
      es.flatMap fun e => e.content.textValues.flatMap references
  | .error _ => []

/-
  Substituting with one table and then with another is
  substituting with the second laid under the first, as long as
  the first renders no placeholder with a brace.  A second pass
  with the same table changes nothing.
-/
theorem substitute_staged
    {entries : List Entry}
    {first : List Element}
    (hOverlays : m.Overlays b₁ b₂)
    (hBraceless :
      ∀ p ∈ placeholdersOf entries, b₁.RendersBraceless p)
    (hFirst :
      (substitute (.entries entries) b₁).result = .ok first) :
    (substitute (.entries (first.map Entry.element))
        b₂).result =
      (substitute (.entries entries) m).result ∧
    (substitute (.entries (first.map Entry.element))
        b₁).result =
      .ok first := by
  have hStages :
      ∀ n b : Bindings, n.Overlays b₁ b →
        (substitute (.entries (first.map Entry.element))
            b).result =
          (substitute (.entries entries) n).result := by
    intro n b hLayers
    rw [result_substitute_entries] at hFirst
    rcases Outcome.bind_eq_ok_iff.mp hFirst with
      ⟨es, hCoerced, hSubstituted⟩
    rw [placeholdersOf, hCoerced] at hBraceless
    rw [result_substitute_entries, result_substitute_entries,
      coerceEntries, coerceFrom_elements, hCoerced,
      Outcome.ok_bind, Outcome.ok_bind]
    refine Outcome.mapM_of_mapM ?_ hSubstituted
    intro e hMember changed hElement
    simp only [Element.substitute, Outcome.result_bind]
      at hElement ⊢
    rcases Outcome.bind_eq_ok_iff.mp hElement with
      ⟨content, hContent, hNew⟩
    obtain rfl : { e with content } = changed :=
      Except.ok.inj hNew
    have hInner :
        ∀ p ∈ e.content.textValues.flatMap references,
          b₁.RendersBraceless p := by
      intro p hPlaceholder
      exact hBraceless p
        (List.mem_flatMap.mpr ⟨e, hMember, hPlaceholder⟩)
    simp only [Content.substitute_substitute hLayers hInner
      hContent]
  refine ⟨hStages m b₂ hOverlays, ?_⟩
  rw [hStages b₁ b₁ b₁.overlays_self, hFirst]

end Stages

/-
  A name bound first, one bound second and one in no table, with
  a brace left open between them.
-/
theorem substitute_staged_across_braces :
    let template : Text :=
      "\x7b\x7ba\x7d\x7d\x7b\x7b\n\x7b\x7bb|upper\x7d\x7d\x7d"
    let entry : Entry :=
      .object [("type", .text "text"), ("properties",
        .object [("text", .text template)])]
    let b₁ : Bindings := .table [("a", .data (.text "x"))]
    let b₂ : Bindings := .table [("b", .data (.text "y"))]
    let m : Bindings :=
      .table [("a", .data (.text "x")),
        ("b", .data (.text "y"))]
    let properties : TextProperties :=
      { text := .text ("x" ++ template.drop 5) }
    let once : Element :=
      { id := .text "element_0"
        content := .text (.record properties) }
    (substitute (.entries [.element once]) b₂).result =
        (substitute (.entries [entry]) m).result ∧
      (substitute (.entries [.element once]) b₁).result =
        .ok [once] := by
  intro template entry b₁ b₂ m properties once
  have hOverlays : m.Overlays b₁ b₂ := by
    intro name
    by_cases hName : name = "a"
    · rw [hName]
      rfl
    · have hOther : (name == ("a" : Text)) = false :=
        beq_eq_false_iff_ne.mpr hName
      simp only [m, b₁, b₂, Bindings.get?,
        List.lookup_cons, hOther]
      rfl
  have hBraceless :
      ∀ p ∈ placeholdersOf [entry], b₁.RendersBraceless p := by
    have hPlaceholders :
        placeholdersOf [entry] =
          [.ofContent "a", .ofContent "b|upper"] := by
      rfl
    rw [hPlaceholders]
    intro p hMember bound hGet v hRender
    rcases List.mem_pair.mp hMember with rfl | rfl
    · obtain rfl : Binding.data (.text "x") = bound :=
        Option.some.inj (Except.ok.inj hGet)
      obtain rfl : ("x" : Text) = v := Except.ok.inj hRender
      exact ⟨by decide, by decide⟩
    · exact absurd (Except.ok.inj hGet)
        (Option.some_ne_none bound).symm
  have hFirst :
      (substitute (.entries [entry]) b₁).result =
        .ok [once] := by
    rfl
  exact substitute_staged hOverlays hBraceless hFirst

end LabelPress

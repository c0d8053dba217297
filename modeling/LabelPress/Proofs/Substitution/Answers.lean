import LabelPress.Proofs.Label.Settled
import LabelPress.Proofs.Placeholder.Resolution
import LabelPress.Proofs.Value.NumberRange
import LabelPress.Proofs.Variable.Rendering

/-
  When a substitution answers.

  A settled element is substituted by resolving the texts that it
  shows, one after another, and wrapping up what they become.  So
  settled elements are substituted exactly when the bindings can
  fill all of their placeholders, and a fault is that of one of
  these.

  Main declarations:
    * `Bindings.CanFill`, `Bindings.FailsAt`
    * `Placeholder.resolve_eq_error_iff`, `Placeholder.canFill_iff`
    * `ResolvesTexts`, `Content.resolvesTexts`
    * `exists_substitute_iff`, `substitute_failsOnly`
-/

namespace LabelPress

open Outcome

variable {b : Bindings}
variable {P : Fault → Prop}

------------------------------------------------------------
-- Placeholders
------------------------------------------------------------

/- Whether something stands for a placeholder. -/
def Bindings.CanFill
    [Machine]
    (b : Bindings)
    (p : Placeholder) :
    Prop :=
  ∃ t, b.Fills p t

/- Whether the value of a placeholder fails in its format. -/
def Bindings.FailsAt
    [Machine]
    (b : Bindings)
    (p : Placeholder)
    (f : Fault) :
    Prop :=
  ∃ bound, b.get? p.name = .ok (some bound) ∧
    bound.classify.FailsIn p.format f

section Proper

variable {rows : List (Text × Binding)}
variable {p : Placeholder}
variable {f : Fault}

/- What is found in a table is in one of its rows. -/
theorem Bindings.of_get?
    {P : BoundValue → Prop}
    {name : Text}
    {bound : Binding}
    (hRows : ∀ row ∈ rows, P row.2.classify)
    (hGet : (Bindings.table rows).get? name = .ok (some bound)) :
    P bound.classify := by
  have hFound := Except.ok.inj hGet
  have hLookup : rows.lookup name = some bound :=
    (Option.filter_eq_some_iff.mp hFound).1
  rcases List.lookup_eq_some_iff.mp hLookup with
    ⟨before, after, rfl, _⟩
  have hMember :
      (name, bound) ∈ before ++ (name, bound) :: after :=
    List.mem_append_right before List.mem_cons_self
  exact hRows _ hMember

/- A table of proper values fails where one fails in its format. -/
theorem Placeholder.resolve_eq_error_iff
    [Machine]
    (hProper : ∀ row ∈ rows, row.2.classify.IsProper) :
    (p.resolve (.table rows)).result = .error f ↔
      (Bindings.table rows).FailsAt p f := by
  rw [Placeholder.result_resolve, bind_eq_error_iff]
  constructor
  · rintro (hNone | ⟨found, hGet, hRender⟩)
    · cases hNone
    · cases found with
      | none => cases hRender
      | some bound =>
          have hValue := Bindings.of_get? hProper hGet
          exact ⟨bound, hGet,
            (BoundValue.render_eq_error_iff hValue).mp hRender⟩
  · rintro ⟨bound, hGet, hFails⟩
    have hValue := Bindings.of_get? hProper hGet
    exact .inr ⟨some bound, hGet,
      (BoundValue.render_eq_error_iff hValue).mpr hFails⟩

/- Something stands for a placeholder unless its value fails. -/
theorem Placeholder.canFill_iff
    [Machine]
    (hProper : ∀ row ∈ rows, row.2.classify.IsProper) :
    (Bindings.table rows).CanFill p ↔
      ∀ f, ¬ (Bindings.table rows).FailsAt p f := by
  simp only [← Placeholder.resolve_eq_error_iff hProper,
    Bindings.CanFill, ← Placeholder.result_resolve_eq_ok_iff]
  cases hResult : (p.resolve (.table rows)).result with
  | ok t => exact iff_of_true ⟨t, rfl⟩ nofun
  | error f =>
      exact iff_of_false nofun fun hNone => hNone f rfl

end Proper

------------------------------------------------------------
-- Values
------------------------------------------------------------

section Values

variable [Machine]
variable {v : Value}

/- A value is resolved when its placeholders can be filled. -/
theorem exists_resolve_iff :
    (∃ w, (resolve v b).result = .ok w) ↔
      ∀ p ∈ references v, b.CanFill p := by
  cases v with
  | text t =>
      have hPieces :
          (∃ w, (resolve (.text t) b).result = .ok w) ↔
            ∃ u, Piece.resolved b (pieces t) = .ok u := by
        rw [result_resolve_text]
        exact exists_bind_iff_of_forall fun u =>
          ⟨Value.text u, rfl⟩
      rw [hPieces]
      constructor
      · rintro ⟨u, hResolved⟩ p hMember
        rcases Piece.resolved_eq_ok_iff.mp hResolved with
          ⟨fill, hFills, _⟩
        exact ⟨fill p, hFills p hMember⟩
      · intro hFill
        refine ⟨_, Piece.resolved_eq_ok_iff.mpr
          ⟨Placeholder.filledWith b, ?_, rfl⟩⟩
        intro p hMember
        rcases hFill p hMember with ⟨t, ht⟩
        rw [Placeholder.filledWith_eq
          (Placeholder.result_resolve_eq_ok_iff.mpr ht)]
        exact ht
  | _ =>
      refine iff_of_true ⟨_, rfl⟩ ?_
      exact List.forall_mem_nil _

/- A value fails with the fault of one of its placeholders. -/
theorem resolve_failsOnly
    (hFails :
      ∀ p ∈ references v, FailsOnly P (p.resolve b).result) :
    FailsOnly P (resolve v b).result := by
  cases v with
  | text t =>
      have hPieces :
          ∀ piece ∈ pieces t,
            FailsOnly P (piece.resolve b).result := by
        intro piece hMember
        cases piece with
        | literal c => exact failsOnly_ok [c]
        | placeholder p =>
            exact hFails p
              (List.mem_filterMap.mpr ⟨_, hMember, rfl⟩)
      rw [result_resolve_text]
      refine FailsOnly.bind ?_ fun u => failsOnly_ok _
      exact (FailsOnly.mapM hPieces).bind fun _ => failsOnly_ok _
  | _ => exact failsOnly_ok _

end Values

------------------------------------------------------------
-- Resolved Texts
------------------------------------------------------------

/-
  Whether a step comes to resolving some values, one after
  another, and wrapping up what they become.
-/
def ResolvesTexts
    [Machine]
    {α : Type}
    (vs : List Value)
    (step : Bindings → Outcome α) :
    Prop :=
  ∃ wrap : List Value → α, ∀ b,
    (step b).result =
      (vs.mapM fun v => (resolve v b).result).map wrap

section Steps

variable [Machine]
variable {α β : Type}
variable {vs : List Value}
variable {step : Bindings → Outcome α}

theorem ResolvesTexts.exists_iff
    (hStep : ResolvesTexts vs step) :
    (∃ a, (step b).result = .ok a) ↔
      ∀ p ∈ vs.flatMap references, b.CanFill p := by
  rcases hStep with ⟨wrap, hWrap⟩
  have hTexts :
      (∃ a, (step b).result = .ok a) ↔
        ∃ ws, (vs.mapM fun v => (resolve v b).result) =
          .ok ws := by
    rw [hWrap]
    cases vs.mapM fun v => (resolve v b).result with
    | error f => exact iff_of_false nofun nofun
    | ok ws => exact iff_of_true ⟨wrap ws, rfl⟩ ⟨ws, rfl⟩
  rw [hTexts, exists_mapM_iff, List.forall_mem_flatMap]
  simp only [exists_resolve_iff]

theorem ResolvesTexts.failsOnly
    (hStep : ResolvesTexts vs step)
    (hFails :
      ∀ p ∈ vs.flatMap references,
        FailsOnly P (p.resolve b).result) :
    FailsOnly P (step b).result := by
  rcases hStep with ⟨wrap, hWrap⟩
  rw [hWrap]
  refine FailsOnly.map (FailsOnly.mapM fun v hMember => ?_) wrap
  exact resolve_failsOnly
    (List.forall_mem_flatMap.mp hFails v hMember)

/- A step that only wraps up an answer resolves as much. -/
theorem ResolvesTexts.return
    (hStep : ResolvesTexts vs step)
    (g : α → β) :
    ResolvesTexts vs fun b => do return g (← step b) := by
  rcases hStep with ⟨wrap, hWrap⟩
  refine ⟨g ∘ wrap, fun b => ?_⟩
  rw [result_bind, hWrap]
  cases vs.mapM fun v => (resolve v b).result with
  | error f => rfl
  | ok ws => rfl

theorem resolvesTexts_ok
    (a : α) :
    ResolvesTexts [] fun _ => Outcome.ok a :=
  ⟨fun _ => a, fun _ => rfl⟩

/- One text is resolved before the others. -/
theorem ResolvesTexts.cons
    {next : Value → Bindings → Outcome α}
    (v : Value)
    (hNext : ∀ w, ResolvesTexts vs (next w)) :
    ResolvesTexts (v :: vs)
      fun b => resolve v b >>= fun w => next w b := by
  choose wrap hWrap using hNext
  refine ⟨fun ws => wrap (ws.headD v) ws.tail, fun b => ?_⟩
  rw [result_bind, List.mapM_cons]
  cases (resolve v b).result with
  | error f => rfl
  | ok w =>
      rw [ok_bind, ok_bind, hWrap]
      cases vs.mapM fun v => (resolve v b).result with
      | error f => rfl
      | ok ws => rfl

/- A null has nothing to resolve. -/
theorem ResolvesTexts.null
    (hStep : ResolvesTexts vs step) :
    ResolvesTexts (.null :: vs) step := by
  rcases hStep with ⟨wrap, hWrap⟩
  refine ⟨fun ws => wrap ws.tail, fun b => ?_⟩
  have hNull : (resolve .null b).result = .ok .null := rfl
  rw [hWrap, List.mapM_cons, hNull, ok_bind]
  cases vs.mapM fun v => (resolve v b).result with
  | error f => rfl
  | ok ws => rfl

/-
  Keys are resolved one after another.  The values of the later
  keys are those before the first key was set.
-/
theorem resolvesTexts_keys
    {fields : Fields}
    {keys : List Text}
    (hNodup : keys.Nodup) :
    ResolvesTexts (keys.map (Value.fieldOf fields))
      fun b => substituteKeys b fields keys := by
  induction keys generalizing fields with
  | nil => exact resolvesTexts_ok fields
  | cons key keys ih =>
      rcases List.nodup_cons.mp hNodup with ⟨hKey, hRest⟩
      simp only [substituteKeys, List.map_cons]
      rw [Value.fieldOf]
      cases fields.get? key with
      | none => exact (ih hRest).null
      | some v =>
          -- what is put under this key shows under no later one
          refine ResolvesTexts.cons v fun w => ?_
          rw [← Fields.map_fieldOf_set hKey fields w]
          exact ih hRest

end Steps

------------------------------------------------------------
-- Elements
------------------------------------------------------------

/- The placeholders in the texts that a content shows. -/
def Content.placeholders
    (content : Content) :
    List Placeholder :=
  content.textValues.flatMap references

/- A record is resolved as a step on it is. -/
theorem Stored.resolvesTexts_record
    [Machine]
    {α : Type}
    {vs : List Value}
    {f : Bindings → α → Outcome α}
    {p : α}
    (hStep : ResolvesTexts vs fun b => f b p)
    (wrap : Stored α → Content) :
    ResolvesTexts vs fun b => do
      return wrap (← (Stored.record p).substitute b (f b)) :=
  (hStep.return Stored.record).return wrap

/- A content of a type resolves the texts that it shows. -/
theorem Content.resolvesTexts
    [Machine]
    {elementType : Text}
    {content : Content}
    (hType : content.IsOfType elementType) :
    ResolvesTexts content.textValues
      fun b => content.substitute b := by
  have hProperty :
      ∀ {α : Type} (v : Value) (set : Value → α),
        ResolvesTexts [v] fun b => do return set (← resolve v b) :=
    fun v set =>
      ResolvesTexts.cons v fun w => resolvesTexts_ok (set w)
  cases hType with
  | text p =>
      exact Stored.resolvesTexts_record
        (hProperty p.text fun text => { p with text }) .text
  | image p =>
      exact Stored.resolvesTexts_record
        (hProperty p.src fun src => { p with src }) .image
  | barcode p =>
      exact Stored.resolvesTexts_record
        (hProperty p.data fun data => { p with data }) .barcode
  | line p =>
      exact Stored.resolvesTexts_record (resolvesTexts_ok p) .line
  | box p =>
      exact Stored.resolvesTexts_record (resolvesTexts_ok p) .box
  | circle p =>
      exact Stored.resolvesTexts_record (resolvesTexts_ok p) .circle
  | @unknown elementType hUnknown properties =>
      have hKeys :
          ResolvesTexts
            (textBearing.map (Value.fieldOf properties))
            fun b => substituteKeys b properties textBearing :=
        resolvesTexts_keys (by decide)
      exact (hKeys.return Value.object).return
        (Content.unknown (.text elementType))

/- The results of substituting elements, one after another. -/
theorem result_substitute_elements
    [Machine]
    (es : List Element)
    (b : Bindings) :
    (substitute (.entries (es.map .element)) b).result =
      es.mapM fun e => (e.substitute b).result := by
  rw [result_substitute_entries, coerceEntries,
    coerceFrom_elements, ok_bind]

section Settled

variable [Machine]
variable {rows : List Fields}
variable {es : List Element}

theorem AreSettled.resolvesTexts
    (hSettled : AreSettled rows es)
    {e : Element}
    (hMember : e ∈ es) :
    ResolvesTexts e.content.textValues
      fun b => e.substitute b := by
  induction hSettled with
  | nil => cases hMember
  | cons hFirst _ ih =>
      rcases List.mem_cons.mp hMember with rfl | hLater
      · exact (Content.resolvesTexts hFirst.content).return _
      · exact ih hLater

/- Settled elements are substituted when all can be filled. -/
theorem exists_substitute_iff
    (hSettled : AreSettled rows es) :
    (∃ later,
      (substitute (.entries (es.map .element)) b).result =
        .ok later) ↔
      ∀ e ∈ es, ∀ p ∈ e.content.placeholders, b.CanFill p := by
  rw [result_substitute_elements, exists_mapM_iff]
  exact forall₂_congr fun e hMember =>
    (hSettled.resolvesTexts hMember).exists_iff

/- They fail with the fault of one of their placeholders. -/
theorem substitute_failsOnly
    (hSettled : AreSettled rows es)
    (hFails :
      ∀ e ∈ es, ∀ p ∈ e.content.placeholders,
        FailsOnly P (p.resolve b).result) :
    FailsOnly P
      (substitute (.entries (es.map .element)) b).result := by
  rw [result_substitute_elements]
  exact FailsOnly.mapM fun e hMember =>
    (hSettled.resolvesTexts hMember).failsOnly (hFails e hMember)

end Settled

end LabelPress

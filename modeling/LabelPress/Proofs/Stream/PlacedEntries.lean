import LabelPress.Proofs.Stream.Emission
import LabelPress.Proofs.Value.NumberRange
import LabelPress.Proofs.Value.Showing

/-
  Entries that can be placed.

  Reading an entry, sorting by depth and comparing with the canvas
  turn the coordinates, sizes and depths of elements into numbers,
  and nothing guards these steps.  Nor is a value guarded that is
  too deep in itself to be shown, in a name, a block or a notice,
  or to be looked up.  An entry is placed exactly when none of its
  numbers is an integer beyond the doubles and its values can be
  shown, and the faults are of these kinds otherwise.

  Main declarations:
    * `Canvas.IsNumeric`
    * `Element.numbers`, `Element.CanBeShown`
    * `Element.isPlaced_iff`
    * `Entry.FitsDoubles`, `Entry.IsHandled`
    * `Entry.isPlaced_iff`
    * `Fault.StopsEmission`, `Printer.emit_failsOnly`
-/

namespace LabelPress

------------------------------------------------------------
-- Elements
------------------------------------------------------------

/- Whether the sizes of a canvas are numbers in range. -/
structure Canvas.IsNumeric
    (c : Canvas) :
    Prop where
  widthIsNumber : c.width.numeric?.isSome = true
  widthFits : c.width.FitsDouble
  heightIsNumber : c.height.numeric?.isSome = true
  heightFits : c.height.FitsDouble

namespace Element

/- The values of an element that place it. -/
def numbers
    (e : Element) :
    List Value :=
  [e.x, e.y, e.width, e.height, e.zIndex]

variable {e : Element}
variable {c : Canvas}

theorem exists_depthKey_iff :
    (∃ z, depthKey e = .ok z) ↔ e.zIndex.FitsDouble := by
  rw [depthKey, exists_bind_iff_of_forall]
  · exact Value.exists_doubleOr_iff _
  · intro z
    exact ⟨_, rfl⟩

theorem exists_bounds_iff :
    (∃ b, e.bounds = .ok b) ↔
      e.x.FitsDouble ∧ e.y.FitsDouble ∧
        e.width.FitsDouble ∧ e.height.FitsDouble := by
  simp only [← Value.exists_finiteDouble_iff]
  unfold bounds
  apply exists_bind_iff
  intro left
  apply exists_bind_iff
  intro top
  apply exists_bind_iff
  intro width
  apply exists_bind_iff_of_forall
  intro height
  exact ⟨_, rfl⟩

theorem exists_atMost
    {x : Double}
    {limit : Value}
    (hNumber : limit.numeric?.isSome = true) :
    ∃ b, atMost x limit = .ok b := by
  rcases Option.isSome_iff_exists.mp hNumber with ⟨y, hy⟩
  rw [atMost, Value.compareNumber, hy]
  exact ⟨_, rfl⟩

/- Elements are compared with a canvas where they have bounds. -/
theorem exists_isInside_iff
    (hCanvas : c.IsNumeric) :
    (∃ inside, e.isInside c = .ok inside) ↔
      ∃ b, e.bounds = .ok b := by
  unfold isInside
  apply exists_bind_iff_of_forall
  intro b
  split_ifs with hCorner
  · rcases exists_atMost (x := b.right)
      hCanvas.widthIsNumber with ⟨fits, hFits⟩
    rw [hFits, Outcome.ok_bind]
    split_ifs with hWide
    · exact exists_atMost hCanvas.heightIsNumber
    · exact ⟨_, rfl⟩
  · exact ⟨_, rfl⟩

/-
  Whether no value of an element is too deep in itself where it is
  shown or looked up: in its block, or its id in a notice of a
  failure or of a place beyond the canvas.
-/
structure CanBeShown
    [Machine]
    (e : Element)
    (p : Printer)
    (canvas : Canvas) :
    Prop where
  block : p.block e ≠ .error .nestedTooDeep
  failure :
    ∀ f, p.block e = .error f →
      e.id.checkShown .failureNotice ≠ .error .nestedTooDeep
  beyond :
    e.isInside canvas = .ok false →
      e.id.checkShown .canvasNotice ≠ .error .nestedTooDeep

/- An id that is a text can be shown in every notice. -/
theorem canBeShown_of_text
    [Machine]
    {p : Printer}
    {s : Text}
    (hId : e.id = .text s)
    (hBlock : p.block e ≠ .error .nestedTooDeep) :
    e.CanBeShown p c where
  block := hBlock
  failure := by
    rw [hId]
    exact fun _ _ => nofun
  beyond := by
    rw [hId]
    exact fun _ => nofun

end Element

namespace Printer

variable [Machine]
variable {p : Printer}
variable {e : Element}
variable {c : Canvas}

/- An element of no known type has an empty block. -/
theorem block_of_unknown
    (p : Printer)
    (hUnknown : ¬ hasKnownType e = true) :
    p.block e = .ok [] := by
  rcases e with ⟨place, content⟩
  have hBlock :
      ∀ content : Content, ¬ hasKnownType ⟨place, content⟩ = true →
        p.block ⟨place, content⟩ = .ok [] := by
    intro content hNone
    unfold block
    cases p.options with
    | _ =>
        cases content with
        | unknown elementType properties => rfl
        | bare => rfl
        | _ => exact absurd rfl hNone
  exact hBlock content hUnknown

theorem exists_skip_iff
    {f : Fault} :
    (∃ lines, (skip e f).result = .ok lines) ↔
      f ≠ .nestedTooDeep ∧
        e.id.checkShown .failureNotice ≠ .error .nestedTooDeep := by
  unfold skip
  split_ifs with hDeep
  · exact iff_of_false nofun fun hBoth => hBoth.1 hDeep
  · rw [Outcome.result_bind, Outcome.result_noteShowing]
    split_ifs with hShown
    · exact iff_of_false nofun fun hBoth => hBoth.2 hShown
    · exact iff_of_true ⟨[], rfl⟩ ⟨hDeep, hShown⟩

/- An element is encoded or skipped unless a value is too deep. -/
theorem exists_encode_iff :
    (∃ lines, (p.encode e).result = .ok lines) ↔
      p.block e ≠ .error .nestedTooDeep ∧
        ∀ f, p.block e = .error f →
          e.id.checkShown .failureNotice ≠
            .error .nestedTooDeep := by
  by_cases hKnown : hasKnownType e = true
  · rw [encode, if_pos hKnown]
    cases hBlock : p.block e with
    | ok lines =>
        refine iff_of_true ⟨lines, rfl⟩ ⟨?_, ?_⟩
        · intro hSame
          cases hSame
        · intro f hSame
          cases hSame
    | error f =>
        rw [exists_skip_iff]
        constructor
        · rintro ⟨hFault, hShown⟩
          exact ⟨fun hSame => hFault (Except.error.inj hSame),
            fun _ _ => hShown⟩
        · rintro ⟨hFault, hShown⟩
          exact ⟨fun hSame => hFault (congrArg Except.error hSame),
            hShown f rfl⟩
  · rw [block_of_unknown p hKnown]
    refine iff_of_true ⟨[], result_encode_of_unknown p hKnown⟩
      ⟨?_, ?_⟩
    · intro hSame
      cases hSame
    · intro f hSame
      cases hSame

theorem exists_encodeOn_iff
    (hCanvas : c.IsNumeric) :
    (∃ lines, (p.encodeOn c e).result = .ok lines) ↔
      (∃ b, e.bounds = .ok b) ∧ e.CanBeShown p c := by
  rw [← Element.exists_isInside_iff hCanvas, encodeOn]
  simp only [Outcome.result_bind, Outcome.result_liftM]
  cases hInside : e.isInside c with
  | error f =>
      refine iff_of_false nofun ?_
      rintro ⟨⟨inside, hSome⟩, _⟩
      cases hSome
  | ok inside =>
      cases inside with
      | true =>
          refine exists_encode_iff.trans ?_
          constructor
          · rintro ⟨hBlock, hFailure⟩
            refine ⟨⟨true, rfl⟩, hBlock, hFailure, ?_⟩
            intro hBeyond
            rw [hInside] at hBeyond
            cases hBeyond
          · rintro ⟨_, hShown⟩
            exact ⟨hShown.block, hShown.failure⟩
      | false =>
          simp only [Bool.not_false, if_true, Outcome.ok_bind,
            Outcome.result_bind, Outcome.result_noteShowing]
          split_ifs with hNotice
          · refine iff_of_false nofun ?_
            rintro ⟨_, hShown⟩
            exact hShown.beyond hInside hNotice
          · refine exists_encode_iff.trans ?_
            constructor
            · rintro ⟨hBlock, hFailure⟩
              exact ⟨⟨false, rfl⟩, hBlock, hFailure,
                fun _ => hNotice⟩
            · rintro ⟨_, hShown⟩
              exact ⟨hShown.block, hShown.failure⟩

end Printer

theorem Element.isPlaced_iff
    [Machine]
    {e : Element}
    {p : Printer}
    {c : Canvas}
    (hCanvas : c.IsNumeric) :
    e.IsPlaced p c ↔
      (∀ v ∈ e.numbers, v.FitsDouble) ∧ e.CanBeShown p c := by
  have hNumbers :
      (∀ v ∈ e.numbers, v.FitsDouble) ↔
        (∃ z, depthKey e = .ok z) ∧ ∃ b, e.bounds = .ok b := by
    rw [exists_depthKey_iff, exists_bounds_iff]
    simp only [numbers, List.forall_mem_cons, List.not_mem_nil]
    tauto
  rw [hNumbers, and_assoc, ← Printer.exists_encodeOn_iff hCanvas]
  exact ⟨fun hPlaced => ⟨hPlaced.depth, hPlaced.block⟩,
    fun ⟨hDepth, hBlock⟩ => ⟨hDepth, hBlock⟩⟩

------------------------------------------------------------
-- Entries
------------------------------------------------------------

/- Fields can be read as properties, whatever they are. -/
theorem exists_readProperties
    {α : Type}
    (set? : α → Text → Value → Option α)
    (elementType : Text)
    (record : α)
    (fields : Fields) :
    ∃ r, (readProperties set? elementType record fields).result =
      .ok r := by
  induction fields generalizing record with
  | nil => exact ⟨record, rfl⟩
  | cons field rest ih =>
      rcases field with ⟨key, v⟩
      rw [result_readProperties_cons]
      exact ih _

theorem Content.exists_ofFields
    (id elementType : Text)
    (properties : Fields) :
    ∃ content,
      (Content.ofFields id elementType properties).result =
        .ok content := by
  have hRecord :
      ∀ {α : Type} (set? : α → Text → Value → Option α)
        (record : α) (make : α → Content),
        ∃ content,
          (readProperties set? elementType record properties >>=
              fun p => pure (make p)).result =
            .ok content := by
    intro α set? record make
    rcases exists_readProperties set? elementType record
      properties with ⟨p, hRead⟩
    refine ⟨make p, ?_⟩
    rw [Outcome.result_bind, hRead]
    rfl
  unfold Content.ofFields
  cases ElementType.ofName? elementType with
  | none => exact ⟨_, rfl⟩
  | some type =>
      cases type with
      | _ => exact hRecord _ _ _

namespace Entry

/- The values of an entry that place its element. -/
def numbers :
    Entry → List Value
  | .element e => e.numbers
  | .object fields =>
      [Value.fieldOf fields "x", Value.fieldOf fields "y",
        Value.fieldOf fields "width",
        Value.fieldOf fields "height",
        Value.fieldOf fields "rotation", depthOf fields]
  | .other _ => []

/- Whether no number that places an entry is too large. -/
def FitsDoubles
    (entry : Entry) :
    Prop :=
  ∀ v ∈ entry.numbers, v.FitsDouble

instance
    (entry : Entry) :
    Decidable entry.FitsDoubles :=
  inferInstanceAs
    (Decidable (∀ v ∈ entry.numbers, v.FitsDouble))

/-
  Whether an entry can be handled by a printer: its numbers are in
  range, an object names a type and an id that can be shown, and
  so does the element show that is read.
-/
structure IsHandled
    [Machine]
    (entry : Entry)
    (p : Printer)
    (canvas : Canvas) :
    Prop where
  fits : entry.FitsDoubles
  named :
    ∀ fields, entry = .object fields →
      checkNames fields (.index 0) = .ok ()
  shown :
    ∀ e, entry.coerced? = some e → e.CanBeShown p canvas

end Entry

theorem exists_quarterTurn_iff
    {v : Value} :
    (∃ n, quarterTurn v = .ok n) ↔ v.FitsDouble := by
  rw [quarterTurn, exists_bind_iff_of_forall]
  · exact Value.exists_doubleOr_iff _
  · intro degrees
    exact ⟨_, rfl⟩

theorem Placement.exists_ofFields_iff
    {fields : Fields}
    (position : Position) :
    (∃ p, Placement.ofFields fields position = .ok p) ↔
      ∀ v ∈ (Entry.object fields).numbers, v.FitsDouble := by
  have hSteps :
      (∃ p, Placement.ofFields fields position = .ok p) ↔
        (∃ x, (Value.fieldOf fields "x").doubleOr 0 =
            .ok x) ∧
          (∃ y, (Value.fieldOf fields "y").doubleOr 0 =
            .ok y) ∧
          (∃ width,
            (Value.fieldOf fields "width").doubleOr 0 =
              .ok width) ∧
          (∃ height,
            (Value.fieldOf fields "height").doubleOr 0 =
              .ok height) ∧
          (∃ rotation,
            quarterTurn (Value.fieldOf fields "rotation") =
              .ok rotation) ∧
          ∃ depth, (depthOf fields).wholePart = .ok depth := by
    unfold Placement.ofFields
    apply exists_bind_iff
    intro x
    apply exists_bind_iff
    intro y
    apply exists_bind_iff
    intro width
    apply exists_bind_iff
    intro height
    apply exists_bind_iff
    intro rotation
    apply exists_bind_iff_of_forall
    intro depth
    exact ⟨_, rfl⟩
  simp only [hSteps, Value.exists_doubleOr_iff,
    exists_quarterTurn_iff, Value.exists_wholePart_iff,
    Entry.numbers, List.forall_mem_cons, List.not_mem_nil,
    false_implies, implies_true, and_true]

/- What is read from fields is never too large. -/
theorem Placement.fitsDouble_ofFields
    {fields : Fields}
    {position : Position}
    {p : Placement}
    {content : Content}
    (hRead : Placement.ofFields fields position = .ok p) :
    ∀ v ∈ (Element.mk p content).numbers, v.FitsDouble := by
  rcases Placement.exists_numbers_of_ofFields hRead with
    ⟨x, y, width, height, degrees, depth, hDepth, rfl⟩
  simp only [Element.numbers, List.forall_mem_cons,
    List.not_mem_nil, false_implies, implies_true, and_true]
  exact ⟨Value.fitsDouble_double _, Value.fitsDouble_double _,
    Value.fitsDouble_double _, Value.fitsDouble_double _,
    Value.fitsDouble_wholePart hDepth⟩

namespace Entry

variable [Machine]
variable {entry : Entry}
variable {p : Printer}
variable {c : Canvas}

/-
  An object is an element when its names can be shown and its
  placement can be read.
-/
theorem coerce?_object_eq_ok_iff
    {fields : Fields}
    {index : Nat}
    {e? : Option Element} :
    ((object fields).coerce? index).result = .ok e? ↔
      checkNames fields (.index index) = .ok () ∧
        ∃ place content,
          Placement.ofFields fields (.index index) = .ok place ∧
            (Content.ofFields (elementId fields (.index index))
              (elementTypeOf fields)
              (propertyFields fields)).result = .ok content ∧
            e? = some { place with content } := by
  simp only [coerce?, Outcome.result_bind,
    Outcome.bind_eq_ok_iff, Element.ofFields_eq_ok_iff]
  constructor
  · rintro ⟨_, ⟨hNames, place, content, hPlacement, hContent, rfl⟩,
      hSome⟩
    exact ⟨hNames, place, content, hPlacement, hContent,
      (Except.ok.inj hSome).symm⟩
  · rintro ⟨hNames, place, content, hPlacement, hContent, rfl⟩
    exact ⟨_, ⟨hNames, place, content, hPlacement, hContent, rfl⟩,
      rfl⟩

/- Entries are placed when they can be handled. -/
theorem isPlaced_iff
    (hCanvas : c.IsNumeric) :
    entry.IsPlaced p c ↔ entry.IsHandled p c := by
  cases entry with
  | element e =>
      have hOnly (e' : Element)
          (hSame : (element e).coerced? = some e') : e' = e :=
        (Option.some.inj hSame).symm
      constructor
      · rintro ⟨_, hPlaced⟩
        rcases (Element.isPlaced_iff hCanvas).mp (hPlaced e rfl) with
          ⟨hFits, hShown⟩
        refine ⟨hFits, nofun, fun e' hSame => ?_⟩
        rw [hOnly e' hSame]
        exact hShown
      · rintro ⟨hFits, _, hShown⟩
        refine ⟨⟨some e, rfl⟩, fun e' hSame => ?_⟩
        rw [hOnly e' hSame]
        exact (Element.isPlaced_iff hCanvas).mpr
          ⟨hFits, hShown e rfl⟩
  | other kind =>
      have hNone : (other kind).coerced? = none := rfl
      refine iff_of_true ⟨⟨none, rfl⟩, fun e hSome => ?_⟩
        ⟨List.forall_mem_nil _, nofun, fun e hSome => ?_⟩
      · rw [hNone] at hSome
        cases hSome
      · rw [hNone] at hSome
        cases hSome
  | object fields =>
      constructor
      · rintro ⟨⟨e?, hCoerced⟩, hPlaced⟩
        rcases coerce?_object_eq_ok_iff.mp hCoerced with
          ⟨hNames, place, content, hPlacement, _, rfl⟩
        refine ⟨(Placement.exists_ofFields_iff (.index 0)).mp
          ⟨place, hPlacement⟩, ?_, fun e hSome => ?_⟩
        · rintro _ ⟨⟩
          exact hNames
        · exact ((Element.isPlaced_iff hCanvas).mp
            (hPlaced e hSome)).2
      · rintro ⟨hFits, hNamed, hShown⟩
        rcases (Placement.exists_ofFields_iff (.index 0)).mpr
            hFits with ⟨place, hPlacement⟩
        rcases Content.exists_ofFields
            (elementId fields (.index 0)) (elementTypeOf fields)
            (propertyFields fields) with ⟨content, hContent⟩
        have hCoerced := coerce?_object_eq_ok_iff.mpr
          ⟨hNamed fields rfl, place, content, hPlacement, hContent,
            rfl⟩
        refine ⟨⟨_, hCoerced⟩, fun e hSome => ?_⟩
        refine (Element.isPlaced_iff hCanvas).mpr
          ⟨?_, hShown e hSome⟩
        rw [coerced?, hCoerced] at hSome
        obtain rfl := Option.some.inj hSome
        exact Placement.fitsDouble_ofFields hPlacement

end Entry

------------------------------------------------------------
-- Faults of an Emission
------------------------------------------------------------

/-
  The faults that stop an emission: an integer beyond the doubles,
  and a value that cannot be shown.
-/
inductive Fault.StopsEmission :
    Fault → Prop where
  | integerTooLarge : StopsEmission .integerTooLarge
  | ofShowing
      {f : Fault}
      (hShowing : f.IsOfShowing) :
      StopsEmission f

section TooLarge

variable {α : Type}
variable {r : Except Fault α}

theorem FailsOnlyTooLarge.failsOnly
    {P : Fault → Prop}
    (hFails : FailsOnlyTooLarge r)
    (hTooLarge : P .integerTooLarge) :
    Outcome.FailsOnly P r := by
  intro f hFault
  rw [hFails f hFault]
  exact hTooLarge

theorem FailsOnlyTooLarge.stopsEmission
    (hFails : FailsOnlyTooLarge r) :
    Outcome.FailsOnly Fault.StopsEmission r :=
  hFails.failsOnly .integerTooLarge

end TooLarge

theorem Placement.ofFields_failsOnly
    (fields : Fields)
    (position : Position) :
    FailsOnlyTooLarge (Placement.ofFields fields position) := by
  have hNumber :
      ∀ key, FailsOnlyTooLarge
        ((Value.fieldOf fields key).doubleOr 0) := fun key =>
    (Value.fieldOf fields key).doubleOr_failsOnly 0
  have hRotation :
      FailsOnlyTooLarge
        (quarterTurn (Value.fieldOf fields "rotation")) :=
    (hNumber "rotation").bind fun _ => failsOnlyTooLarge_ok _
  have hDepth :
      FailsOnlyTooLarge (depthOf fields).wholePart :=
    ((depthOf fields).doubleOr_failsOnly 0).bind fun _ =>
      failsOnlyTooLarge_ok _
  unfold Placement.ofFields
  exact (hNumber "x").bind fun _ => (hNumber "y").bind fun _ =>
    (hNumber "width").bind fun _ =>
      (hNumber "height").bind fun _ =>
        hRotation.bind fun _ => hDepth.bind fun _ =>
          failsOnlyTooLarge_ok _

/- The names in a row of a list can at most not be shown. -/
theorem checkNames_failsOnly
    [Machine]
    (fields : Fields)
    (index : Nat) :
    Outcome.FailsOnly Fault.IsOfShowing
      (checkNames fields (.index index)) := by
  unfold checkNames
  refine (Value.checkShown_failsOnly _ _).bind fun _ => ?_
  split_ifs with hNone
  · exact Outcome.failsOnly_ok ()
  · exact Value.checkShown_failsOnly _ _

section Faults

variable [Machine]

/- Of an object the names and the numbers can be at fault. -/
theorem Entry.coerce?_failsOnly
    {P : Fault → Prop}
    {entry : Entry}
    {index : Nat}
    (hTooLarge : P .integerTooLarge)
    (hNames :
      ∀ fields, entry = .object fields →
        Outcome.FailsOnly P (checkNames fields (.index index))) :
    Outcome.FailsOnly P (entry.coerce? index).result := by
  cases entry with
  | element e => exact Outcome.failsOnly_ok _
  | other kind => exact Outcome.failsOnly_ok _
  | object fields =>
      rcases Content.exists_ofFields
          (elementId fields (.index index)) (elementTypeOf fields)
          (propertyFields fields) with ⟨content, hContent⟩
      have hPlacement :=
        (Placement.ofFields_failsOnly fields
          (.index index)).failsOnly hTooLarge
      simp only [coerce?, Element.ofFields, Outcome.result_bind,
        Outcome.result_liftM, hContent, Outcome.ok_bind]
      exact ((hNames fields rfl).bind fun _ =>
        hPlacement.bind fun _ => Outcome.failsOnly_ok _).bind
          fun _ => Outcome.failsOnly_ok _

theorem coerceFrom_failsOnly_of
    {P : Fault → Prop}
    {entries : List Entry}
    (hTooLarge : P .integerTooLarge)
    (hNames :
      ∀ entry ∈ entries, ∀ fields index, entry = .object fields →
        Outcome.FailsOnly P (checkNames fields (.index index)))
    (index : Nat) :
    Outcome.FailsOnly P (coerceFrom index entries).result := by
  induction entries generalizing index with
  | nil => exact Outcome.failsOnly_ok []
  | cons entry rest ih =>
      rcases List.forall_mem_cons.mp hNames with ⟨hFirst, hRest⟩
      have hEntry :=
        Entry.coerce?_failsOnly hTooLarge
          fun fields hSame => hFirst fields index hSame
      simp only [coerceFrom, Outcome.result_bind]
      exact hEntry.bind fun _ =>
        (ih hRest (index + 1)).bind fun _ => Outcome.failsOnly_ok _

theorem coerceFrom_failsOnly
    (index : Nat)
    (entries : List Entry) :
    Outcome.FailsOnly Fault.StopsEmission
      (coerceFrom index entries).result :=
  coerceFrom_failsOnly_of .integerTooLarge
    (fun _ _ fields index _ =>
      (checkNames_failsOnly fields index).mono
        fun _ hShowing => .ofShowing hShowing)
    index

namespace Printer

variable {p : Printer}
variable {entries : List Entry}
variable {canvas : CanvasSource}
variable {c : Canvas}
variable {opening : List Text}

/- Only what is too deep in itself is a fault of an encoding. -/
theorem encode_failsOnly
    (p : Printer)
    (e : Element) :
    Outcome.FailsOnly (· = .nestedTooDeep) (p.encode e).result := by
  rcases p.result_encode e with hLines | hDeep
  · rw [hLines]
    exact Outcome.failsOnly_ok _
  · rw [hDeep]
    exact Outcome.failsOnly_error rfl

theorem encodeOn_failsOnly
    {P : Fault → Prop}
    {e : Element}
    (p : Printer)
    (hInside : Outcome.FailsOnly P (e.isInside c))
    (hDeep : P .nestedTooDeep) :
    Outcome.FailsOnly P (p.encodeOn c e).result := by
  have hEncode : Outcome.FailsOnly P (p.encode e).result := by
    refine (p.encode_failsOnly e).mono ?_
    rintro _ rfl
    exact hDeep
  unfold encodeOn
  simp only [Outcome.result_bind, Outcome.result_liftM]
  refine hInside.bind fun inside => ?_
  cases inside with
  | true => exact hEncode
  | false =>
      simp only [Bool.not_false, if_true, Outcome.result_bind,
        Outcome.result_noteShowing]
      split_ifs with hNotice
      · exact Outcome.failsOnly_error hDeep
      · exact hEncode

/- Elements in range fail alone for what is too deep in itself. -/
theorem emit_elements_failsOnly
    {es : List Element}
    (hCanvas : Canvas.ofSource canvas = .ok c)
    (hOpening : p.opening c = .ok opening)
    (hClosing : p.checkClosing = .ok ())
    (hNumeric : c.IsNumeric)
    (hFits : ∀ e ∈ es, ∀ v ∈ e.numbers, v.FitsDouble) :
    Outcome.FailsOnly (· = .nestedTooDeep)
      (p.emit (.entries (es.map .element)) canvas).result := by
  have hSorted : sortByDepth es = .ok (inDepthOrder es) := by
    refine sortByDepth_eq_ok_iff.mpr ⟨fun e hMember => ?_, rfl⟩
    refine Element.exists_depthKey_iff.mpr (hFits e hMember _ ?_)
    simp [Element.numbers]
  have hInside :
      ∀ e ∈ inDepthOrder es,
        Outcome.FailsOnly (· = .nestedTooDeep)
          (e.isInside c) := by
    intro e hMember
    have hNumbers :=
      hFits e ((perm_inDepthOrder es).mem_iff.mp hMember)
    simp only [Element.numbers, List.forall_mem_cons] at hNumbers
    rcases hNumbers with ⟨hX, hY, hWidth, hHeight, _⟩
    rcases (Element.exists_isInside_iff hNumeric).mpr
      (Element.exists_bounds_iff.mpr ⟨hX, hY, hWidth, hHeight⟩)
      with ⟨inside, hRead⟩
    rw [hRead]
    exact Outcome.failsOnly_ok inside
  simp only [emit, coerceEntries, Outcome.result_bind,
    Outcome.result_liftM, Outcome.result_each, hCanvas, hOpening,
    hClosing, hSorted, EntrySource.entries?, coerceFrom_elements,
    Outcome.ok_bind]
  refine Outcome.FailsOnly.bind ?_ fun _ => Outcome.failsOnly_ok _
  exact Outcome.FailsOnly.mapM fun e hMember =>
    p.encodeOn_failsOnly (hInside e hMember) rfl

end Printer

end Faults

end LabelPress

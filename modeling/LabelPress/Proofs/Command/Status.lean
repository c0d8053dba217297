import LabelPress.Machine.Usual
import LabelPress.Proofs.Command.Printing
import LabelPress.Proofs.Command.Stages
import LabelPress.Proofs.Substitution.DeclaredNames

/-
  How runs of the command line end.

  A run that writes no file ends with a report exactly when its
  files are beyond no limit, each value can be rendered in the
  formats that it is used in, no value that is written is too deep
  in itself, and the output can hold what is printed.  The report
  says that a label or a list was printed, or what the run was
  refused for.

  Main declarations:
    * `Request.IsPrintable`, `Request.IsManageable`
    * `Request.IsRefused`
    * `Request.exists_run_iff`, `Request.run_cases`
    * `Request.run_failsOnly`
    * `Request.run_ends`
-/

namespace LabelPress

open Outcome

namespace Request

section Runs

variable [Machine]
variable {r : Request}
variable {files : Files}
variable {today : Value}
variable {day : Date}
variable {document : Document}
variable {values : Fields}
variable {report : Report}

------------------------------------------------------------
-- Lists of Variables
------------------------------------------------------------

/- The names of the variables that a document uses. -/
theorem exists_namesIn
    (document : Document) :
    ∃ names, (namesIn document).result = .ok names :=
  ⟨_, usedVariableNames_elements document.elements⟩

/- They are listed if the output can hold them. -/
theorem exists_list_iff :
    (∃ report, (list files document).result = .ok report) ↔
      ∀ names, (namesIn document).result = .ok names →
        ∀ name ∈ names, canPrint name := by
  rcases exists_namesIn document with ⟨names, hNames⟩
  constructor
  · rintro ⟨report, hListed⟩ names' hNames'
    rw [result_list files hNames'] at hListed
    rcases bind_eq_ok_iff.mp hListed with ⟨_, hHeld, _⟩
    exact checkListing_eq_ok_iff.mp hHeld
  · intro hHeld
    exact ⟨_, (result_list_eq_ok_iff hNames).mpr
      (hHeld names hNames)⟩

theorem eq_printed_of_list
    (hListed : (list files document).result = .ok report) :
    ∃ output, report = .printed files output := by
  rcases exists_namesIn document with ⟨names, hNames⟩
  rw [result_list files hNames] at hListed
  rcases bind_eq_ok_iff.mp hListed with ⟨_, _, hReport⟩
  exact ⟨_, (Except.ok.inj hReport).symm⟩

theorem list_failsOnly
    (files : Files)
    (document : Document) :
    FailsOnly Fault.IsOfPrinting (list files document).result := by
  rcases exists_namesIn document with ⟨names, hNames⟩
  rw [result_list files hNames]
  exact (checkListing_failsOnly names).bind fun _ => failsOnly_ok _

------------------------------------------------------------
-- Labels on the Output
------------------------------------------------------------

section Output

variable {code : Text}

theorem deliver_of_none
    (hOutput : nameGiven r.output = none)
    (code : Text) :
    r.deliver files code =
      checkPrintable code >>= fun _ =>
        .ok (.printed files code) := by
  rw [deliver, hOutput]
  rfl

theorem exists_deliver_iff
    (hOutput : nameGiven r.output = none) :
    (∃ report, r.deliver files code = .ok report) ↔
      canPrint code := by
  rw [deliver_of_none hOutput, ← checkPrintable_eq_ok_iff]
  cases checkPrintable code with
  | error f => exact iff_of_false nofun nofun
  | ok _ => exact iff_of_true ⟨_, rfl⟩ rfl

theorem eq_printed_of_deliver
    (hOutput : nameGiven r.output = none)
    (hDelivered : r.deliver files code = .ok report) :
    report = .printed files code := by
  rw [deliver_of_none hOutput] at hDelivered
  rcases bind_eq_ok_iff.mp hDelivered with ⟨_, _, hReport⟩
  exact (Except.ok.inj hReport).symm

theorem deliver_failsOnly
    (hOutput : nameGiven r.output = none)
    (code : Text) :
    FailsOnly Fault.IsOfPrinting (r.deliver files code) := by
  rw [deliver_of_none hOutput]
  exact (checkPrintable_failsOnly code).bind fun _ =>
    failsOnly_ok _

end Output

------------------------------------------------------------
-- Runs
------------------------------------------------------------

/-
  Whether nothing stops the label of a document from being printed
  with some values: no value of a placeholder fails in its format,
  no value of the elements that this leads to is too deep in
  itself, and the output can hold the label.
-/
structure IsPrintable
    (r : Request)
    (document : Document)
    (values : Fields) :
    Prop where
  filled :
    ∀ b, (Bindings.ofFields values).bind.result = .ok b →
      ∀ e ∈ document.elements, ∀ p ∈ e.content.placeholders,
        ∀ f, ¬ b.FailsAt p f
  written :
    ∀ b es, (Bindings.ofFields values).bind.result = .ok b →
      (substitute (.entries (document.elements.map .element))
          b).result = .ok es →
        r.CanWrite es
  held :
    ∀ code, (r.stream document values).result = .ok code →
      canPrint code

/-
  Whether the files of a request are beyond no limit, and the
  output can hold the names that are asked for, or nothing stops
  the label from being printed.
-/
structure IsManageable
    (r : Request)
    (files : Files)
    (today : Value) :
    Prop where
  document : Document.IsManageable files r.document
  names :
    ∀ document names,
      (Document.ofFile files r.document).result = .ok document →
        r.listVariables = true →
          (namesIn document).result = .ok names →
            ∀ name ∈ names, canPrint name
  shallow :
    ∀ document,
      (Document.ofFile files r.document).result = .ok document →
        r.listVariables = false →
          ∀ name, nameGiven r.variablesFile = some name →
            files.IsShallow .variablesText name
  label :
    ∀ document values,
      (Document.ofFile files r.document).result = .ok document →
        r.listVariables = false →
          r.values files today = .ok values →
            r.IsPrintable document values

/- What a run is refused for. -/
inductive IsRefused
    (r : Request)
    (files : Files)
    (today : Value) :
    Prop where
  | document
      {f : Fault}
      (hDocument :
        (Document.ofFile files r.document).result = .error f) :
      IsRefused r files today
  | values
      {document : Document}
      {f : Fault}
      (hLoaded :
        (Document.ofFile files r.document).result = .ok document)
      (hPrint : r.listVariables = false)
      (hValues : r.values files today = .error f) :
      IsRefused r files today
  | protocol
      {document : Document}
      (hLoaded :
        (Document.ofFile files r.document).result = .ok document)
      (hPrint : r.listVariables = false)
      (hNone : r.protocol = none) :
      IsRefused r files today

/- The stages of a run that prints a label. -/
def print
    (r : Request)
    (files : Files)
    (today : Value)
    (document : Document) :
    Outcome Report :=
  orRefuse files (Fault.loadComplaint? "variables")
      (Outcome.lift (r.values files today)) fun values =>
    orRefuse files Fault.protocolComplaint?
        (r.stream document values) fun code =>
      Outcome.lift (r.deliver files code)

theorem run_eq
    (r : Request)
    (files : Files)
    (today : Value) :
    r.run files today =
      orRefuse files (Fault.loadComplaint? r.document)
        (Document.ofFile files r.document) fun document =>
          if r.listVariables then list files document
          else r.print files today document :=
  rfl

/- Nothing stops a label whose stream is given, or blamed. -/
theorem isPrintable_iff
    (hAccepted : r.toSettings.IsAccepted)
    (hOrderly : document.IsOrderly)
    (hPlain : ∀ field ∈ values, field.2.IsPlain) :
    r.IsPrintable document values ↔
      FailsOnly (Complains Fault.protocolComplaint?)
          (r.stream document values).result ∧
        ∀ code, (r.stream document values).result = .ok code →
          canPrint code := by
  rcases Bindings.isProper_of_bind fun field hField =>
    (hPlain field hField).isRecord with ⟨rows, hBound, _⟩
  rw [stream_blamed_iff hAccepted hOrderly hPlain hBound]
  constructor
  · rintro ⟨hFilled, hWritten, hHeld⟩
    exact ⟨⟨hFilled _ hBound, fun es => hWritten _ es hBound⟩,
      hHeld⟩
  · rintro ⟨⟨hFilled, hWritten⟩, hHeld⟩
    refine ⟨fun b hSame => ?_, fun b es hSame => ?_, hHeld⟩
    · obtain rfl := Except.ok.inj (hBound.symm.trans hSame)
      exact hFilled
    · obtain rfl := Except.ok.inj (hBound.symm.trans hSame)
      exact hWritten es

/- A label is printed when its variables and values allow it. -/
theorem exists_print_iff
    (hAccepted : r.toSettings.IsAccepted)
    (hOutput : nameGiven r.output = none)
    (hOrderly : document.IsOrderly) :
    (∃ report,
      (r.print files (.date day) document).result =
        .ok report) ↔
      (∀ name, nameGiven r.variablesFile = some name →
        files.IsShallow .variablesText name) ∧
      ∀ values, r.values files (.date day) = .ok values →
        r.IsPrintable document values := by
  have hDelivered :
      ∀ code,
        (∃ report,
          (Outcome.lift (r.deliver files code)).result =
            .ok report) ↔ canPrint code :=
    fun code => exists_deliver_iff hOutput
  rw [print, exists_orRefuse_iff, complains_loadComplaint]
  change FailsOnly Fault.ConcernsFile (r.values files _) ∧ _ ↔ _
  rw [values_blamed_iff]
  refine and_congr_right fun _ =>
    forall₂_congr fun values hValues => ?_
  rw [exists_orRefuse_iff, isPrintable_iff hAccepted hOrderly
    (isPlain_of_values hValues)]
  exact and_congr_right fun _ =>
    forall₂_congr fun code _ => hDelivered code

/- A run ends with a report when its input is manageable. -/
theorem exists_run_iff
    (hAccepted : r.toSettings.IsAccepted)
    (hOutput : nameGiven r.output = none) :
    (∃ report, (r.run files (.date day)).result = .ok report) ↔
      r.IsManageable files (.date day) := by
  have hPrint :
      ∀ document,
        (Document.ofFile files r.document).result = .ok document →
          ((∃ report,
            (r.print files (.date day) document).result =
              .ok report) ↔ _) :=
    fun document hLoaded => exists_print_iff hAccepted hOutput
      (Document.isOrderly_of_ofFile hLoaded)
  rw [run_eq, exists_orRefuse_iff, complains_loadComplaint,
    Document.ofFile_blamed_iff]
  cases hList : r.listVariables with
  | true =>
      simp only [if_true, exists_list_iff]
      constructor
      · rintro ⟨hDocument, hNext⟩
        exact
          { document := hDocument
            names := fun document names hLoaded _ hNames =>
              hNext document hLoaded names hNames
            shallow := fun _ _ hLabel => by
              rw [hList] at hLabel
              cases hLabel
            label := fun _ _ _ hLabel => by
              rw [hList] at hLabel
              cases hLabel }
      · intro hManageable
        exact ⟨hManageable.document, fun document hLoaded names =>
          hManageable.names document names hLoaded hList⟩
  | false =>
      simp only [Bool.false_eq_true, if_false]
      constructor
      · rintro ⟨hDocument, hNext⟩
        have hStages := fun document hLoaded =>
          (hPrint document hLoaded).mp (hNext document hLoaded)
        exact
          { document := hDocument
            names := fun _ _ _ hListed => by
              rw [hList] at hListed
              cases hListed
            shallow := fun document hLoaded _ =>
              (hStages document hLoaded).1
            label := fun document values hLoaded _ =>
              (hStages document hLoaded).2 values }
      · intro hManageable
        refine ⟨hManageable.document, fun document hLoaded => ?_⟩
        exact (hPrint document hLoaded).mpr
          ⟨hManageable.shallow document hLoaded hList,
            fun values => hManageable.label document values hLoaded
              hList⟩

/-
  A label is printed from variables in a printer language, and
  refused where one of these is missing.
-/
theorem print_cases
    (hAccepted : r.toSettings.IsAccepted)
    (hOutput : nameGiven r.output = none)
    (hOrderly : document.IsOrderly)
    (hReport :
      (r.print files (.date day) document).result = .ok report) :
    (∃ values output,
      report = .printed files output ∧
        r.values files (.date day) = .ok values ∧
        r.protocol ≠ none) ∨
    (∃ complaint,
      report = .refused files complaint ∧
        ((∃ f, r.values files (.date day) = .error f) ∨
          r.protocol = none)) := by
  rcases orRefuse_cases hReport with
    ⟨values, hValues, hStream⟩ | ⟨f, complaint, hFault, _, rfl⟩
  · have hCases := stream_cases hAccepted hOrderly
      (isPlain_of_values hValues)
    rcases orRefuse_cases hStream with
      ⟨code, hCode, hDelivered⟩ |
      ⟨f, complaint, hFault, hComplaint, rfl⟩
    · rw [hCode] at hCases
      rcases hCases with ⟨hLanguage, _⟩ | ⟨_, _, hNot, _⟩ |
        ⟨_, hNot, _⟩
      · obtain rfl := eq_printed_of_deliver hOutput hDelivered
        exact .inl ⟨values, code, rfl, hValues, hLanguage⟩
      · cases hNot
      · cases hNot
    · -- a fault that is complained about is that of the language
      rw [hFault] at hCases
      rcases hCases with ⟨_, _, hNot⟩ | ⟨hNone, _⟩ |
        ⟨g, hSame, hCause⟩
      · cases hNot
      · exact .inr ⟨complaint, rfl, .inr hNone⟩
      · obtain rfl := Except.error.inj hSame
        refine absurd ?_ (not_complains (hCause.imp_right And.left))
        exact Option.isSome_iff_exists.mpr ⟨complaint, hComplaint⟩
  · exact .inr ⟨complaint, rfl, .inl ⟨f, hFault⟩⟩

/- A run prints something, or it is refused for a reason. -/
theorem run_cases
    (hAccepted : r.toSettings.IsAccepted)
    (hOutput : nameGiven r.output = none)
    (hReport :
      (r.run files (.date day)).result = .ok report) :
    (∃ output, report = .printed files output ∧
      ¬ r.IsRefused files (.date day)) ∨
    (∃ complaint, report = .refused files complaint ∧
      r.IsRefused files (.date day)) := by
  rw [run_eq] at hReport
  rcases orRefuse_cases hReport with
    ⟨document, hLoaded, hNext⟩ | ⟨f, complaint, hFault, _, rfl⟩
  · cases hLabel : r.listVariables with
    | true =>
        rw [hLabel, if_pos rfl] at hNext
        rcases eq_printed_of_list hNext with ⟨output, rfl⟩
        refine .inl ⟨output, rfl, fun hRefused => ?_⟩
        cases hRefused with
        | document hFault => rw [hLoaded] at hFault; cases hFault
        | values _ hPrint _ => rw [hLabel] at hPrint; cases hPrint
        | protocol _ hPrint _ => rw [hLabel] at hPrint; cases hPrint
    | false =>
        rw [hLabel, if_neg Bool.false_ne_true] at hNext
        rcases print_cases hAccepted hOutput
          (Document.isOrderly_of_ofFile hLoaded) hNext with
          ⟨values, output, rfl, hValues, hLanguage⟩ |
          ⟨complaint, rfl, ⟨f, hFault⟩ | hNone⟩
        · refine .inl ⟨output, rfl, fun hRefused => ?_⟩
          cases hRefused with
          | document hFault => rw [hLoaded] at hFault; cases hFault
          | values _ _ hFault => rw [hValues] at hFault; cases hFault
          | protocol _ _ hNone => exact hLanguage hNone
        · exact .inr ⟨complaint, rfl,
            .values hLoaded hLabel hFault⟩
        · exact .inr ⟨complaint, rfl,
            .protocol hLoaded hLabel hNone⟩
  · exact .inr ⟨complaint, rfl, .document hFault⟩

/-
  The faults that stop the printing of a document: a value that is
  too deep in itself, a format that asks for too much, and what the
  output cannot hold.
-/
def StopsPrinting
    (document : Document)
    (f : Fault) :
    Prop :=
  f = .nestedTooDeep ∨ f.IsOverlong ∧ document.AsksTooMuch ∨
    f.IsOfPrinting

theorem print_failsOnly
    (hAccepted : r.toSettings.IsAccepted)
    (hOutput : nameGiven r.output = none)
    (hOrderly : document.IsOrderly) :
    FailsOnly (StopsPrinting document)
      (r.print files (.date day) document).result := by
  refine orRefuse_failsOnly ?_ fun values hValues => ?_
  · rw [complains_loadComplaint]
    exact values_failsOnly.mono fun _ => Or.imp_right .inl
  · refine orRefuse_failsOnly ?_ fun code _ => ?_
    · rcases stream_cases hAccepted hOrderly
        (isPlain_of_values hValues) with ⟨_, code, hCode⟩ |
        ⟨_, f, hFault, hComplains⟩ | ⟨f, hFault, hCause⟩
      · rw [hCode]
        exact failsOnly_ok code
      · rw [hFault]
        exact failsOnly_error (.inl hComplains)
      · rw [hFault]
        exact failsOnly_error (.inr (hCause.imp_right .inl))
    · change FailsOnly _ (r.deliver files code)
      exact (deliver_failsOnly hOutput code).mono
        fun _ hHeld => .inr (.inr hHeld)

/- Nothing else stops a run but numbers beyond the doubles. -/
theorem run_failsOnly
    (hAccepted : r.toSettings.IsAccepted)
    (hOutput : nameGiven r.output = none) :
    FailsOnly
      (fun f => f = .nestedTooDeep ∨ f = .integerTooLarge ∨
        ∃ document,
          (Document.ofFile files r.document).result =
              .ok document ∧
            StopsPrinting document f)
      (r.run files (.date day)).result := by
  rw [run_eq]
  refine orRefuse_failsOnly ?_ fun document hLoaded => ?_
  · rw [complains_loadComplaint]
    exact (Document.ofFile_failsOnly files r.document).mono
      fun _ => Or.imp_right (Or.imp_right .inl)
  · cases r.listVariables with
    | true =>
        rw [if_pos rfl]
        exact (list_failsOnly files document).mono fun f hHeld =>
          .inr (.inr ⟨document, hLoaded, .inr (.inr hHeld)⟩)
    | false =>
        rw [if_neg Bool.false_ne_true]
        exact (print_failsOnly hAccepted hOutput
          (Document.isOrderly_of_ofFile hLoaded)).mono
            fun f hStops => .inr (.inr ⟨document, hLoaded, hStops⟩)

/-
  A command line that writes no file ends with a report exactly
  when its input is manageable.  The report is one of success, or
  of a refusal with a complaint, and the files are left as they
  were.  It is a refusal when the document or the variables cannot
  be used or there is no printer language.  A run is stopped without
  a report by what lies too deep, by numbers beyond the doubles in
  the document, by formats that ask for too much, and by what the
  output cannot hold, and by nothing else.
-/
theorem run_ends
    {arguments : List Text}
    (hRequest : ofArguments arguments = .request r)
    (hOutput : nameGiven r.output = none)
    (files : Files)
    (day : Date) :
    ((∃ report, (r.run files (.date day)).result = .ok report) ↔
      r.IsManageable files (.date day)) ∧
    (∀ report, (r.run files (.date day)).result = .ok report →
      report.files = files ∧
        ((report.status = 0 ∧ report.lastWords = "" ∧
            ¬ r.IsRefused files (.date day)) ∨
          (report.status = 2 ∧ report.output = "" ∧
            (∃ complaint : Text,
              report.lastWords = "[!] " ++ complaint ++ "\n") ∧
            r.IsRefused files (.date day)))) ∧
    FailsOnly
      (fun f => f = .nestedTooDeep ∨ f = .integerTooLarge ∨
        ∃ document,
          (Document.ofFile files r.document).result =
              .ok document ∧
            StopsPrinting document f)
      (r.run files (.date day)).result := by
  have hAccepted := isAccepted_of_ofArguments hRequest
  refine ⟨exists_run_iff hAccepted hOutput, fun report hReport => ?_,
    run_failsOnly hAccepted hOutput⟩
  rcases run_cases hAccepted hOutput hReport with
    ⟨output, rfl, hUsed⟩ | ⟨complaint, rfl, hRefused⟩
  · exact ⟨rfl, .inl ⟨rfl, rfl, hUsed⟩⟩
  · exact ⟨rfl, .inr ⟨rfl, rfl, ⟨complaint, rfl⟩, hRefused⟩⟩

end Runs

------------------------------------------------------------
-- Padded Texts
------------------------------------------------------------

section Padded

/- A text that shows a variable in a format. -/
def formattedText
    (format : Text) :
    Text :=
  "\x7b\x7ba|" ++ format ++ "\x7d\x7d"

/- A document with this text, and a value for the variable. -/
def formattedFiles
    (format : Text) :
    Files :=
  [("d.json",
      "\x7b\"elements\": [\x7b\"type\": \"text\", " ++
        "\"properties\": \x7b\"text\": \"" ++
        formattedText format ++ "\"\x7d\x7d]\x7d"),
    ("v.json", "\x7b\"a\": \"x\"\x7d")]

/- The row of the text in the document. -/
def formattedRow
    (format : Text) :
    Fields :=
  [("type", .text "text"),
    ("properties", .object [("text", .text (formattedText format))])]

/- The fields that the document has. -/
def formattedFields
    (format : Text) :
    Fields :=
  [("elements", .list [.object (formattedRow format)])]

/- What is read of the document. -/
def formattedDocument
    (format : Text) :
    Document where
  canvas := .standard
  elements :=
    [{ id := .text "element_0"
       content :=
        .text (.record { text := .text (formattedText format) }) }]

/- The command line that prints the document. -/
def formattedRequest :
    Request where
  document := "d.json"
  variablesFile := some "v.json"

/- A day for it to be printed on. -/
def formattedDay :
    Date :=
  ⟨2024, 1, 2, by decide⟩

/- The one variable, as it is bound. -/
def formattedBindings :
    Bindings :=
  .table [("a", .bound ⟨.string, .text "x"⟩)]

theorem ofArguments_formattedRequest :
    ofArguments ["d.json", "--vars", "v.json"] =
      .request formattedRequest := by
  rfl

theorem bind_formatted :
    (Bindings.ofFields [("a", .text "x")]).bind.result =
      .ok formattedBindings := by
  rfl

theorem isDocument_formattedFields
    (format : Text) :
    (formattedFields format).IsDocument [formattedRow format] where
  elements := rfl
  elementRows := by
    refine List.forall_mem_singleton.mpr
      { type := ⟨"text", rfl⟩
        id := nofun
        numbers := ?_
        properties := ?_ }
    · intro key hKey v hv
      simp only [List.mem_cons, List.not_mem_nil, or_false]
        at hKey
      rcases hKey with rfl | rfl | rfl | rfl | rfl | rfl | rfl
      all_goals cases hv
    · intro v hv
      exact ⟨_, (Option.some.inj hv).symm⟩
  sizes := by
    intro key hKey v hv
    rcases List.mem_pair.mp hKey with rfl | rfl
    · cases hv
    · cases hv

/- The values that the files hold. -/
structure HoldsFormat
    (format : Text) :
    Prop where
  document :
    (formattedFiles format).read "d.json" >>=
        Json.parse (Machine.usual.levels .documentText) =
      .ok (.object (formattedFields format))
  values :
    (formattedFiles format).read "v.json" >>=
        Json.parse (Machine.usual.levels .variablesText) =
      .ok (.object [("a", .text "x")])

section Formatted

variable {format : Text}

theorem HoldsFormat.ofFile_eq
    (hHolds : HoldsFormat format) :
    (Document.ofFile (formattedFiles format)
        formattedRequest.document).result =
      .ok (formattedDocument format) := by
  rcases bind_eq_ok_iff.mp hHolds.document with
    ⟨text, hRead, hParse⟩
  rw [Document.result_ofFile]
  change (formattedFiles format).read "d.json" >>= _ = _
  rw [hRead, ok_bind, hParse, ok_bind]
  rfl

theorem HoldsFormat.values_eq
    (hHolds : HoldsFormat format)
    (today : Value) :
    formattedRequest.values (formattedFiles format) today =
      .ok [("a", .text "x")] := by
  have hName :
      nameGiven formattedRequest.variablesFile =
        some "v.json" := by
    rfl
  rcases bind_eq_ok_iff.mp hHolds.values with
    ⟨text, hRead, hParse⟩
  rw [values_of_some hName, valuesInFile_eq, hRead, ok_bind, hParse]
  rfl

end Formatted

/- Nothing stops a text that is padded to three characters. -/
theorem isPrintable_padded :
    formattedRequest.IsPrintable (formattedDocument "pad:3")
      [("a", .text "x")] where
  filled := by
    rintro b hBound e he p hp f ⟨bound, hGet, hFails⟩
    obtain rfl := Except.ok.inj (bind_formatted.symm.trans hBound)
    obtain rfl := List.mem_singleton.mp he
    obtain rfl : p = ⟨"a|pad:3", "a", some "pad:3"⟩ :=
      List.mem_singleton.mp hp
    obtain rfl : Binding.bound ⟨.string, .text "x"⟩ = bound :=
      Option.some.inj (Except.ok.inj hGet)
    rcases hFails with hHidden |
      ⟨before, directive, after, hSplit, _, s, n, _, hAsks, hCannot⟩
    · cases hHidden
    · have hMember :
          directive ∈ Directive.inFormat (some "pad:3") := by
        rw [hSplit]
        exact List.mem_append_right before List.mem_cons_self
      obtain rfl : directive = "pad:3" :=
        List.mem_singleton.mp hMember
      obtain rfl : 3 = n := Option.some.inj hAsks.2
      exact absurd hCannot.min_lt (by decide)
  written := by
    rintro b es hBound hFilled p hPrinter e he hDeep
    obtain rfl := Except.ok.inj (bind_formatted.symm.trans hBound)
    have hKnown :
        (Printer.ofSource formattedRequest.protocolValue
          (.data (.object formattedRequest.options))).result =
            .ok _ := rfl
    have hElements :
        (substitute
          (.entries
            (List.map .element (formattedDocument "pad:3").elements))
          formattedBindings).result = .ok _ := rfl
    obtain rfl := Except.ok.inj (hKnown.symm.trans hPrinter)
    obtain rfl := Except.ok.inj (hElements.symm.trans hFilled)
    obtain rfl := List.mem_singleton.mp he
    cases hDeep
  held := by
    intro code hCode
    have hStream :
        (formattedRequest.stream (formattedDocument "pad:3")
            [("a", .text "x")]).result.toOption.all canPrint =
          true := by
      decide +kernel
    rw [hCode] at hStream
    exact hStream

/- A text is padded to three characters and printed. -/
theorem run_ends_padded :
    ofArguments ["d.json", "--vars", "v.json"] =
        .request formattedRequest ∧
      nameGiven formattedRequest.output = none ∧
      ∃ report,
        (formattedRequest.run (formattedFiles "pad:3")
          (.date formattedDay)).result = .ok report ∧
          report.status = 0 := by
  have hHolds : HoldsFormat "pad:3" :=
    { document := toOption_eq_some_iff.mp (by decide +kernel)
      values := toOption_eq_some_iff.mp (by decide +kernel) }
  have hLoaded := hHolds.ofFile_eq
  have hManageable :
      formattedRequest.IsManageable (formattedFiles "pad:3")
        (.date formattedDay) :=
    { document := Document.isManageable_of_integersFit
        hHolds.document (isDocument_formattedFields "pad:3")
        (by decide)
      names := fun _ _ _ hListed => by cases hListed
      shallow := by
        intro _ _ _ name hName
        obtain rfl : "v.json" = name := Option.some.inj hName
        exact Files.isShallow_of_parse hHolds.values
      label := by
        intro document values hSame _ hValues
        obtain rfl := Except.ok.inj (hLoaded.symm.trans hSame)
        obtain rfl := Except.ok.inj
          ((hHolds.values_eq _).symm.trans hValues)
        exact isPrintable_padded }
  have hEnds :=
    run_ends ofArguments_formattedRequest rfl
      (formattedFiles "pad:3") formattedDay
  rcases hEnds.1.mpr hManageable with ⟨report, hReport⟩
  refine ⟨ofArguments_formattedRequest, rfl, report, hReport, ?_⟩
  rcases (hEnds.2.1 report hReport).2 with
    ⟨hStatus, _⟩ | ⟨_, _, _, hRefused⟩
  · exact hStatus
  · cases hRefused with
    | document hFault => rw [hLoaded] at hFault; cases hFault
    | values _ _ hFault =>
        rw [hHolds.values_eq] at hFault
        cases hFault
    | protocol _ _ hNone => cases hNone

/-
  A width beyond what can be asked for lets a fault out, although
  the document and the variables can be used.
-/
theorem run_stopped_padded :
    ofArguments ["d.json", "--vars", "v.json"] =
        .request formattedRequest ∧
      nameGiven formattedRequest.output = none ∧
      (formattedRequest.run
        (formattedFiles "pad:99999999999999999999")
        (.date formattedDay)).result = .error .widthTooLarge := by
  have hHolds : HoldsFormat "pad:99999999999999999999" :=
    { document := toOption_eq_some_iff.mp (by decide +kernel)
      values := toOption_eq_some_iff.mp (by decide +kernel) }
  have hFault :
      (substitute
        (.entries
          (List.map .element
            (formattedDocument "pad:99999999999999999999").elements))
        formattedBindings).result = .error .widthTooLarge := by
    rfl
  have hStream :
      (formattedRequest.stream
        (formattedDocument "pad:99999999999999999999")
        [("a", .text "x")]).result = .error .widthTooLarge := by
    rw [result_stream _ _ bind_formatted, hFault, error_bind]
  have hValues :
      (Outcome.lift (formattedRequest.values
        (formattedFiles "pad:99999999999999999999")
        (.date formattedDay))).result = .ok [("a", .text "x")] :=
    hHolds.values_eq (.date formattedDay)
  have hPrint : ¬ formattedRequest.listVariables = true :=
    Bool.false_ne_true
  refine ⟨ofArguments_formattedRequest, rfl, ?_⟩
  rw [run_eq, result_orRefuse_of_ok hHolds.ofFile_eq,
    if_neg hPrint, print, result_orRefuse_of_ok hValues,
    result_orRefuse_of_error hStream]
  rfl

end Padded

end Request

end LabelPress

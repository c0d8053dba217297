import LabelPress.Command.Request
import LabelPress.Label.Document
import LabelPress.Printer.Optimizer
import LabelPress.Printer.Stream
import LabelPress.Variable.Usage

/-
  Runs of the command line.

  A run loads the document, fills in the variables, and writes
  the stream of the label to the output or into a file.  A
  document or a file of variables that cannot be used ends it
  with a complaint.  Nothing is written before the stream is
  made; a stream that cannot be encoded leaves its file empty.
  Names of variables are printed one after another, up to the
  first that the output cannot hold.

  Key definitions include:
    * `Report`, what a run shows
    * `Request.run`, `Request.filesAfter`, `Request.printed`
    * `Conclusion`, with `conclude`
    * `directoryAfter`
-/

namespace LabelPress

variable [Machine]

------------------------------------------------------------
-- Reports
------------------------------------------------------------

/-
  What a run shows: its status, what it writes to the output, its
  last words, and the directory after it.
-/
structure Report where
  status : Nat
  output : Text
  lastWords : Text
  files : Files

namespace Report

/- The status of a run that could not use its input. -/
def refusedStatus :
    Nat :=
  2

/- A run that could not use its input. -/
def refused
    (files : Files)
    (complaint : Text) :
    Report :=
  ⟨refusedStatus, "", "[!] " ++ complaint ++ "\n", files⟩

/- A run that wrote to the output. -/
def printed
    (files : Files)
    (output : Text) :
    Report :=
  ⟨0, output, "", files⟩

end Report

/- Whether a fault lies in what a file is or holds. -/
def Fault.concernsFile :
    Fault → Bool
  | .malformedJson .. => true
  | .tooManyDigits .. => true
  | .numeralTooLong _ => true
  | .invalidDocument .. => true
  | .file .. => true
  | .notEncodable _ => true
  | .notDecodable _ => true
  | .nullInName => true
  | .variablesNotObject => true
  | _ => false

/- The complaint about a thing that cannot be loaded from a file. -/
def Fault.loadComplaint?
    (what : Text)
    (f : Fault) :
    Option Text :=
  if f.concernsFile then
    some ("Cannot load " ++ what ++ ": " ++ f.message)
  else none

/- The complaint about a printer language that is not known. -/
def Fault.protocolComplaint?
    (f : Fault) :
    Option Text :=
  match f with
  | .unsupportedProtocol .. => some (Text.quoted f.message)
  | _ => none

------------------------------------------------------------
-- Stages
------------------------------------------------------------

namespace Request

/- A file name that is given and not empty. -/
def nameGiven
    (name : Option Text) :
    Option Text :=
  name.filter fun s => s != ""

/- The values in a file of variables. -/
def valuesInFile
    (files : Files)
    (name : Text) :
    Except Fault Fields := do
  let text ← files.read name
  match ← Json.parse (Machine.levels .variablesText) text with
  | .object fields => return fields
  | _ => throw .variablesNotObject

/- The sample values of a preset, overwritten by those of a file. -/
def values
    (r : Request)
    (files : Files)
    (today : Value) :
    Except Fault Fields := do
  let samples := r.preset.elim [] fun p => sampleData p.definitions today
  match nameGiven r.variablesFile with
  | none => return samples
  | some name => do
      let more ← valuesInFile files name
      return Fields.setAll samples more

/- The options that a request sets. -/
def options
    (r : Request) :
    Fields :=
  let resolution : Fields := r.resolution.toList.map fun v => ("dpi", v)
  let units : Fields := r.units.toList.map fun u => ("units", .text u.name)
  resolution ++ units

/- The stream of a document with values filled in. -/
def stream
    (r : Request)
    (document : Document)
    (values : Fields) :
    Outcome Text := do
  let bindings ← (Bindings.ofFields values).bind
  let elements ←
    substitute (.entries (document.elements.map Entry.element)) bindings
  let canvas := r.size.getD document.canvas
  let protocol := r.protocolValue
  Outcome.note
    (.emitting elements.length protocol.toText canvas.width.toText
      canvas.height.toText)
  let code ←
    emitLabel protocol (.entries (elements.map Entry.element))
      (.canvas canvas) (.data (.object r.options))
  return if r.optimize then optimizeCode code protocol.toText else code

/-
  Check that the output can hold a text; if not, the first
  character that it cannot hold is at fault.
-/
def checkPrintable
    (t : Text) :
    Except Fault Unit :=
  match t.dropWhile Machine.prints with
  | [] => .ok ()
  | c :: _ =>
      .error (.notPrintable c (t.takeWhile Machine.prints).length)

/- The report of a stream that is written where it belongs. -/
def deliver
    (r : Request)
    (files : Files)
    (code : Text) :
    Except Fault Report :=
  match nameGiven r.output with
  | none => do
      checkPrintable code
      return .printed files code
  | some name => do
      files.checkWritable name
      Files.checkText code
      let done : Text :=
        "[+] " ++ r.protocolValue.toText ++ " code written to " ++ name ++
          "\n"
      return ⟨0, "", done, files.write name code⟩

/- The names of the variables that a document uses. -/
def namesIn
    (document : Document) :
    Outcome (List Text) :=
  usedVariableNames (.entries (document.elements.map Entry.element))

/- Check that the output can hold names, one after another. -/
def checkListing :
    List Text → Except Fault Unit
  | [] => .ok ()
  | name :: rest => do
      checkPrintable name
      checkListing rest

/- Names on lines of their own. -/
def lines
    (names : List Text) :
    Text :=
  names.flatMap fun name => name ++ "\n"

/- The report of the variables that a document uses. -/
def list
    (files : Files)
    (document : Document) :
    Outcome Report := do
  let names ← namesIn document
  checkListing names
  return .printed files (lines names)

------------------------------------------------------------
-- Runs
------------------------------------------------------------

/- Go on with a result; some faults end the run with a complaint. -/
def orRefuse
    {α : Type}
    (files : Files)
    (complaint? : Fault → Option Text)
    (x : Outcome α)
    (next : α → Outcome Report) :
    Outcome Report :=
  match x.result with
  | .ok _ => x.bind next
  | .error f =>
      match complaint? f with
      | some complaint => ⟨.ok (.refused files complaint), x.notices⟩
      | none => ⟨.error f, x.notices⟩

/- Do what a request asks for, on a given day. -/
def run
    (r : Request)
    (files : Files)
    (today : Value) :
    Outcome Report :=
  orRefuse files (Fault.loadComplaint? r.document)
      (Document.ofFile files r.document) fun document =>
    if r.listVariables then list files document
    else
      orRefuse files (Fault.loadComplaint? "variables")
          (Outcome.lift (r.values files today)) fun values =>
        orRefuse files Fault.protocolComplaint? (r.stream document values)
          fun code => Outcome.lift (r.deliver files code)

/- The label that a request asks for, on a given day. -/
def label
    (r : Request)
    (files : Files)
    (today : Value) :
    Outcome Text := do
  let document ← Document.ofFile files r.document
  let values ← r.values files today
  r.stream document values

/- The directory after a run, whether it reports or stops. -/
def filesAfter
    (r : Request)
    (files : Files)
    (today : Value) :
    Files :=
  if r.listVariables then files
  else
    match nameGiven r.output, (r.label files today).result with
    | some name, .ok code => files.saved name code
    | _, _ => files

/- The names that are printed: those before one that cannot be. -/
def printedNames
    (names : List Text) :
    List Text :=
  names.takeWhile canPrint

/-
  What a run prints, whether it reports or stops.  One that stops
  has printed nothing but names of variables.
-/
def printed
    (r : Request)
    (files : Files)
    (today : Value) :
    Text :=
  match (r.run files today).result with
  | .ok report => report.output
  | .error _ =>
      match r.listVariables,
          ((Document.ofFile files r.document).bind namesIn).result with
      | true, .ok names => lines (printedNames names)
      | _, _ => ""

end Request

------------------------------------------------------------
-- Conclusions
------------------------------------------------------------

/- The name under which a channel logs. -/
def Channel.name :
    Channel → Text
  | model => "label_model"
  | protocol => "label_protocol"
  | resolver => "label_variables.resolver"
  | command => "label_cli"

/- The name of a level in a log. -/
def Level.name :
    Level → Text
  | debug => "DEBUG"
  | warning => "WARNING"

/- A notice as a line of a log. -/
def Notice.logLine
    (n : Notice) :
    Text :=
  n.level.name ++ " " ++ n.channel.name ++ ": " ++ n.message ++ "\n"

/- The log of a run: warnings, and all else when it is verbose. -/
def logText
    (verbose : Bool)
    (notices : List Notice) :
    Text :=
  (notices.filter fun n => verbose || n.isWarning).flatMap Notice.logLine

/- How a command line ends. -/
inductive Conclusion where
  /- it asks for help -/
  | help
  /- it is refused before anything is done -/
  | refused (r : Refusal)
  /- its run ends with a report, after a log -/
  | ended (log : Text) (report : Report)
  /- its run stops at a fault, after a log and some output -/
  | stopped (log : Text) (output : Text) (f : Fault)

namespace Conclusion

/- The status that a command line ends with. -/
def status :
    Conclusion → Nat
  | help => 0
  | refused _ => Report.refusedStatus
  | ended _ report => report.status
  | stopped .. => 1

/- What a command line writes to the output, but for its help. -/
def output :
    Conclusion → Text
  | ended _ report => report.output
  | stopped _ output _ => output
  | _ => ""

end Conclusion

/- Do what a command line asks for, on a given day. -/
def conclude
    (arguments : List Text)
    (files : Files)
    (today : Value) :
    Conclusion :=
  match Request.ofArguments arguments with
  | .help => .help
  | .refused r => .refused r
  | .request r =>
      let outcome := r.run files today
      let log := logText r.verbose outcome.notices
      match outcome.result with
      | .ok report => .ended log report
      | .error f => .stopped log (r.printed files today) f

/- The directory after a command line, on a given day. -/
def directoryAfter
    (arguments : List Text)
    (files : Files)
    (today : Value) :
    Files :=
  match Request.ofArguments arguments with
  | .request r => r.filesAfter files today
  | _ => files

end LabelPress

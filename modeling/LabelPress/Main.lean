import LabelPress.Command.Run
import LabelPress.Machine.Usual
import Std.Time

/-
  The command line program.

  The program looks up the files that the command line names,
  lets the run be computed from them, and then shows its texts
  and writes the files that it changed.

  Key definitions include:
    * `survey`, the part of the file system that names lead to
    * `main`
-/

namespace LabelPress

/- The files and directories on the way to a path. -/
def surveyPath
    (known : Files) :
    List FilePath → IO Files
  | [] => return known
  | path :: rest => do
      try
        let bytes ← IO.FS.readBinFile path.text.asString
        let found : Files := [(Files.place path, Text.ofBytes bytes)]
        return known ++ found
      catch
        | .inappropriateType .. => do
            let found : Files := [(Files.place path ++ "/", "")]
            surveyPath (known ++ found) rest
        | _ => return known

/- The part of the file system that some names lead to. -/
def survey
    (names : List Text) :
    IO Files :=
  names.foldlM
    (fun known name => do
      let found ← surveyPath [] (FilePath.ofText name).stages
      return known ++ found)
    []

/- The names of files that a request mentions. -/
def Request.names
    (r : Request) :
    List Text :=
  r.document :: r.variablesFile.toList ++ r.output.toList

/- The current day. -/
def currentDay :
    IO Value := do
  let d ← Std.Time.PlainDate.now
  match Date.ofNumbers? d.year.toNat d.month.val.toNat d.day.val.toNat with
  | some date => return .date date
  | none => return .null

/- What the program says about itself. -/
def usage :
    Text :=
  let line (f : Flag) : Text :=
    "  " ++ Text.intercalate ", " f.spellings ++ "\n"
  "usage: label-codegen [flags] document\n" ++ Flag.all.flatMap line

/- Show how a command line ended, and give its status. -/
def Conclusion.deliver
    (before after : Files)
    (conclusion : Conclusion) :
    IO UInt32 := do
  match conclusion with
  | help => IO.print usage.asString
  | refused r => IO.eprintln r.message.asString
  | ended log _ => IO.eprint log.asString
  | stopped log .. => IO.eprint log.asString
  (after.changedSince before).forM fun (name, text) =>
    IO.FS.writeFile name.asString text.asString
  IO.print conclusion.output.asString
  match conclusion with
  | ended _ report => IO.eprint report.lastWords.asString
  | stopped _ _ f => IO.eprintln f.message.asString
  | _ => pure ()
  return conclusion.status.toUInt32

end LabelPress

/- Run the command line. -/
def main
    (arguments : List String) :
    IO UInt32 := do
  let arguments := arguments.map LabelPress.Text.ofString
  let names :=
    match LabelPress.Request.ofArguments arguments with
    | .request r => r.names
    | _ => []
  let files ← LabelPress.survey names
  let today ← LabelPress.currentDay
  let after := LabelPress.directoryAfter arguments files today
  (LabelPress.conclude arguments files today).deliver files after

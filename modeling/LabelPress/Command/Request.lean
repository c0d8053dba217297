import LabelPress.Command.Flag
import LabelPress.Label.Canvas
import LabelPress.Machine
import LabelPress.Printer.Protocol
import LabelPress.Text.Numeral
import LabelPress.Units
import LabelPress.Variable.Preset

/-
  What a command line asks for.

  The words are first told apart, then read from left to right.
  The first plain word names the document; later ones, and flags
  that are not known, are left over.  A flag that is repeated
  counts the last time.  Readers of command lines differ in what
  they make of the mark that ends the flags as an argument, and of
  the letters behind a short flag.

  Key definitions include:
    * `Refusal`, with `Refusal.message`
    * `Request`
    * `Request.ofArguments`
-/

namespace LabelPress

variable [Machine]

------------------------------------------------------------
-- Refusals
------------------------------------------------------------

/- Why a command line is refused. -/
inductive Refusal where
  | ambiguous (given : Text) (matching : List Text)
  | argumentMissing (f : Flag)
  | argumentIgnored (f : Flag) (given : Text)
  | notNumber (f : Flag) (given : Text)
  | notAmong (f : Flag) (given : Text) (choices : List Text)
  | documentMissing
  | leftOver (words : List Text)
  deriving DecidableEq

namespace Refusal

/- A complaint about the argument of a flag. -/
def aboutArgument
    (f : Flag)
    (complaint : Text) :
    Text :=
  "argument " ++ f.name ++ ": " ++ complaint

/- The wording of a refusal. -/
def text :
    Refusal → Text
  | ambiguous given matching =>
      "ambiguous option: " ++ given ++ " could match " ++
        Text.intercalate ", " matching
  | argumentMissing f => aboutArgument f "expected one argument"
  | argumentIgnored f given =>
      aboutArgument f ("ignored explicit argument " ++ Text.quoted given)
  | notNumber f given =>
      aboutArgument f ("invalid float value: " ++ Text.quoted given)
  | notAmong f given choices =>
      aboutArgument f
        ("invalid choice: " ++ Text.quoted given ++ " (choose from " ++
          Text.intercalate ", " (choices.map Text.quoted) ++ ")")
  | documentMissing => "the following arguments are required: document"
  | leftOver words => "unrecognized arguments: " ++ Text.intercalate " " words

/- A refusal as it is reported. -/
def message
    (r : Refusal) :
    Text :=
  "label-codegen: error: " ++ r.text

end Refusal

------------------------------------------------------------
-- Requests
------------------------------------------------------------

/-
  What the flags of a command line ask for.  An earlier reader may
  give the printer language and the resolution as an empty list.
-/
structure Settings where
  protocol : Option Protocol := some .zpl
  variablesFile : Option Text := none
  preset : Option Preset := none
  size : Option Canvas := none
  resolution : Option Value := none
  units : Option LengthUnit := none
  optimize : Bool := false
  output : Option Text := none
  listVariables : Bool := false
  verbose : Bool := false

/- What a command line asks for. -/
structure Request extends Settings where
  document : Text

/- What reading a command line leads to. -/
inductive Invocation where
  | help
  | refused (r : Refusal)
  | request (r : Request)

/- What ends the reading of a command line early. -/
inductive Interruption where
  | help
  | refusal (r : Refusal)

namespace Settings

/- One of several named things. -/
def choose
    {α : Type}
    (f : Flag)
    (given : Text)
    (choices : List (Text × α)) :
    Except Interruption α :=
  match choices.lookup given with
  | some a => .ok a
  | none =>
      .error (.refusal (.notAmong f given (choices.map fun c => c.1)))

/- Pair each thing with its name. -/
def withNames
    {α : Type}
    (name : α → Text)
    (things : List α) :
    List (Text × α) :=
  things.map fun a => (name a, a)

/- The printer language as a value. -/
def protocolValue
    (s : Settings) :
    Value :=
  match s.protocol with
  | some p => .text p.name
  | none => .list []

/-
  Settings with a flag whose argument is an empty list, which for
  most flags is as good as none.
-/
def emptyArgument
    (s : Settings) :
    Flag → Settings
  | .protocol => { s with protocol := none }
  | .variablesFile => { s with variablesFile := none }
  | .preset => { s with preset := none }
  | .size => { s with size := none }
  | .resolution => { s with resolution := some (.list []) }
  | .units => { s with units := none }
  | .output => { s with output := none }
  | _ => s

/- Settings with a flag and its argument. -/
def setArgument
    (s : Settings)
    (f : Flag)
    (given : Text) :
    Except Interruption Settings :=
  match f with
  | .protocol => do
      let protocol ←
        choose f (Text.upper given) (withNames Protocol.name Protocol.all)
      return { s with protocol := some protocol }
  | .variablesFile => .ok { s with variablesFile := some given }
  | .preset => do
      let preset ← choose f given (withNames Preset.name Preset.all)
      return { s with preset := some preset }
  | .size => do
      let size ← choose f given Canvas.commonSizes
      return { s with size := some size }
  | .resolution =>
      match Text.double? given with
      | some x => .ok { s with resolution := some (.double x) }
      | none => .error (.refusal (.notNumber f given))
  | .units => do
      let units ← choose f given (withNames LengthUnit.name LengthUnit.all)
      return { s with units := some units }
  | .output => .ok { s with output := some given }
  | _ => .ok s

/- Settings with a flag that takes no argument. -/
def setSwitch
    (s : Settings)
    (f : Flag) :
    Except Interruption Settings :=
  match f with
  | .help => .error .help
  | .optimize => .ok { s with optimize := true }
  | .listVariables => .ok { s with listVariables := true }
  | .verbose => .ok { s with verbose := true }
  | _ => .ok s

end Settings

------------------------------------------------------------
-- Groups of Flags
------------------------------------------------------------

/- A flag with its argument, if it has one. -/
inductive Use where
  | argument (f : Flag) (given : Text)
  | switch (f : Flag)
  deriving DecidableEq

/-
  Settings with a flag in use.  An earlier reader takes the mark
  that ends the flags out of the arguments, so that nothing is
  left of one that is this mark.
-/
def Use.apply
    (s : Settings) :
    Use → Except Interruption Settings
  | .argument f given =>
      if Machine.reader = .earlier ∧ given = Word.endMark then
        .ok (s.emptyArgument f)
      else s.setArgument f given
  | .switch f => s.setSwitch f

/-
  The uses in a word, a flag whose argument is to come, and what
  is left over of the word.
-/
structure Group where
  uses : List Use
  waiting : Option Flag := none
  leftOver : Option Text := none

namespace Group

/- A use in front of a group. -/
def cons
    (u : Use)
    (g : Group) :
    Group :=
  { g with uses := u :: g.uses }

/- A flag alone in its word. -/
def alone
    (f : Flag) :
    Group :=
  if f.takesArgument then { uses := [], waiting := some f }
  else { uses := [.switch f] }

/- A flag with a text that is its argument. -/
def withText
    (f : Flag)
    (text : Text) :
    Except Refusal Group :=
  if f.takesArgument then .ok { uses := [.argument f text] }
  else .error (.argumentIgnored f text)

/- A flag in a word that cannot be read further. -/
def stoppedAt
    (f : Flag)
    (letters : Text) :
    Group where
  uses := [.switch f]
  leftOver := some ('-' :: letters)

/-
  The group of a short flag and the letters after it, which are
  its argument or, letter by letter, further short flags.  A later
  reader takes an equals sign after a further flag for the start
  of its argument, and leaves letters that are no flags over.
-/
def ofLetters
    (f : Flag) :
    Text → Except Refusal Group
  | [] => .ok (alone f)
  | c :: cs =>
      if f.takesArgument then withText f (c :: cs)
      else
        match Flag.ofSpelling? (['-', c]) with
        | some next =>
            match Machine.reader, cs with
            | .later, .char '=' :: text =>
                (withText next text).map (cons (.switch f))
            | _, cs => (ofLetters next cs).map (cons (.switch f))
        | none =>
            if Machine.reader = .earlier ∨ c = '-' then
              withText f (c :: cs)
            else .ok (stoppedAt f (c :: cs))

/- The group of a short flag and a text that follows it at once. -/
def ofShort
    (f : Flag)
    (text : Text) :
    Except Refusal Group :=
  if text = "" then withText f "" else ofLetters f text

/- The group of a flag and what is attached to it. -/
def ofAttached
    (f : Flag) :
    Attached → Except Refusal Group
  | .nothing => .ok (alone f)
  | .toLong text => withText f text
  | .toShort text => ofShort f text
  | .assigned text =>
      match Machine.reader with
      | .earlier => ofShort f text
      | .later => withText f text

end Group

------------------------------------------------------------
-- Reading
------------------------------------------------------------

/- What has been read of a command line. -/
structure Progress where
  settings : Settings := {}
  document : Option Text := none
  leftOver : List Text := []

namespace Progress

/- Progress with one more word left over. -/
def leave
    (p : Progress)
    (word : Text) :
    Progress :=
  { p with leftOver := p.leftOver ++ [word] }

/- Progress with a plain word. -/
def takePlain
    (p : Progress)
    (word : Text) :
    Progress :=
  match p.document with
  | none => { p with document := some word }
  | some _ => p.leave word

/- Progress with some uses of flags in order. -/
def takeUses
    (p : Progress)
    (uses : List Use) :
    Except Interruption Progress := do
  let settings ← uses.foldlM Use.apply p.settings
  return { p with settings }

end Progress

/- A refusal as an interruption. -/
def refuse
    {α : Type}
    (r : Refusal) :
    Except Interruption α :=
  .error (.refusal r)

/- The words of a command line told apart. -/
def wordsOf :
    List Text → Except Refusal (List Word)
  | [] => .ok []
  | s :: rest =>
      if s = Word.endMark then
        .ok (.endOfFlags :: rest.map Word.plain)
      else
        match Word.ofText s with
        | .error matching => .error (.ambiguous s matching)
        | .ok w => do
            let ws ← wordsOf rest
            return w :: ws

/-
  Read words from left to right.  The mark that ends the flags is
  dropped next to the word that names the document, and is left
  over elsewhere.
-/
def readWords
    (p : Progress) :
    List Word → Except Interruption Progress
  | [] => .ok p
  | .plain s :: rest =>
      match p.document, rest with
      | none, .endOfFlags :: rest => readWords (p.takePlain s) rest
      | _, rest => readWords (p.takePlain s) rest
  | .endOfFlags :: rest =>
      match p.document, rest with
      | none, .plain s :: rest => readWords (p.takePlain s) rest
      | _, rest => readWords (p.leave Word.endMark) rest
  | .unknownFlag s :: rest => readWords (p.leave s) rest
  | .flag f attached :: rest =>
      match Group.ofAttached f attached with
      | .error r => refuse r
      | .ok g =>
          match g.waiting, rest with
          | none, rest => do
              let p ← p.takeUses g.uses
              readWords (g.leftOver.elim p p.leave) rest
          | some f, .plain s :: rest => do
              let p ← p.takeUses (g.uses ++ [.argument f s])
              readWords p rest
          | some f, _ => refuse (.argumentMissing f)

/- What the words of a command line lead to. -/
def Request.ofWords
    (words : List Word) :
    Invocation :=
  match readWords {} words with
  | .error .help => .help
  | .error (.refusal r) => .refused r
  | .ok p =>
      match p.document, p.leftOver with
      | none, _ => .refused .documentMissing
      | some document, [] => .request { p.settings with document }
      | some _, left => .refused (.leftOver left)

/- What a command line asks for. -/
def Request.ofArguments
    (arguments : List Text) :
    Invocation :=
  match wordsOf arguments with
  | .error r => .refused r
  | .ok words => ofWords words

end LabelPress

import LabelPress.Text.Blank
import LabelPress.Text.DecimalDigit

/-
  The flags of the command line.

  A flag has one or two spellings, and some flags take an
  argument.  A word of the command line is told to be a flag, a
  plain word or the mark that ends the flags by its spelling
  alone.  Long spellings may be cut short and may carry a text
  after an equals sign; short ones may carry one at once.

  Key definitions include:
    * `Flag`, with `Flag.spellings`
    * `Word`, with `Word.ofText`
-/

namespace LabelPress

------------------------------------------------------------
-- Flags
------------------------------------------------------------

/- A flag of the command line. -/
inductive Flag where
  | help
  | protocol
  | variablesFile
  | preset
  | size
  | resolution
  | units
  | optimize
  | output
  | listVariables
  | verbose
  deriving DecidableEq

namespace Flag

/- The spellings of a flag. -/
def spellings :
    Flag → List Text
  | help => ["-h", "--help"]
  | protocol => ["--protocol"]
  | variablesFile => ["--vars"]
  | preset => ["--preset"]
  | size => ["--size"]
  | resolution => ["--dpi"]
  | units => ["--units"]
  | optimize => ["--optimize"]
  | output => ["--output", "-o"]
  | listVariables => ["--list-variables"]
  | verbose => ["--verbose", "-v"]

/- All flags. -/
def all :
    List Flag :=
  [help, protocol, variablesFile, preset, size, resolution, units, optimize,
    output, listVariables, verbose]

/- All spellings with their flags, in order. -/
def spelled :
    List (Text × Flag) :=
  all.flatMap fun f => f.spellings.map fun s => (s, f)

/- The flag of a spelling. -/
def ofSpelling?
    (s : Text) :
    Option Flag :=
  spelled.lookup s

/- Whether a flag takes an argument. -/
def takesArgument :
    Flag → Bool
  | help => false
  | optimize => false
  | listVariables => false
  | verbose => false
  | _ => true

/- A flag by all its spellings. -/
def name
    (f : Flag) :
    Text :=
  Text.intercalate "/" f.spellings

end Flag

------------------------------------------------------------
-- Words
------------------------------------------------------------

/-
  What is attached to a flag in its word: nothing, a text after
  the long spelling, or a text after the short one, at once or
  after an equals sign.
-/
inductive Attached where
  | nothing
  | toLong (text : Text)
  | toShort (text : Text)
  | assigned (text : Text)
  deriving DecidableEq

/- A text that an equals sign attaches to a spelling. -/
def Attached.to
    (spelling : Text)
    (text : Text) :
    Attached :=
  if List.isPrefixOf "--" spelling then .toLong text
  else .assigned text

/- What a word of the command line is. -/
inductive Word where
  | plain (text : Text)
  | endOfFlags
  | flag (f : Flag) (attached : Attached)
  | unknownFlag (text : Text)
  deriving DecidableEq

namespace Word

/- The mark that ends the flags. -/
def endMark :
    Text :=
  "--"

/- A text at its first equals sign, if it has one. -/
def splitAssignment?
    (s : Text) :
    Option (Text × Text) :=
  match Text.onFrom '=' s with
  | [] => none
  | _ :: value => some (Text.upTo '=' s, value)

/- The flag that a text spells exactly, with what is attached. -/
def spelledOut?
    (s : Text) :
    Option Word :=
  match Flag.ofSpelling? s with
  | some f => some (flag f .nothing)
  | none => do
      let (spelling, value) ← splitAssignment? s
      let f ← Flag.ofSpelling? spelling
      some (flag f (.to spelling value))

/- The spellings that begin with some text. -/
def spellingsFrom
    (start : Text) :
    List (Text × Flag) :=
  Flag.spelled.filter fun (spelling, _) =>
    start.isPrefixOf spelling

/- The spellings that a text may be short for, and what it means. -/
def candidates
    (s : Text) :
    List (Text × Word) :=
  match s with
  | .char '-' :: .char '-' :: _ =>
      match splitAssignment? s with
      | some (start, value) =>
          (spellingsFrom start).map fun (spelling, f) =>
            (spelling, flag f (.toLong value))
      | none =>
          (spellingsFrom s).map fun (spelling, f) =>
            (spelling, flag f .nothing)
  | mark :: letter :: rest =>
      let short := [mark, letter]
      match Flag.ofSpelling? short with
      | some f => [(short, flag f (.toShort rest))]
      | none => []
  | _ => []

/- Digits up to the end, which a newline may follow. -/
def endsInDigits
    (cs : Text) :
    Bool :=
  match cs.takeWhile Text.isDecimalDigit,
      cs.dropWhile Text.isDecimalDigit with
  | [], _ => false
  | _, rest => rest == [] || rest == "\n"

/- Whether a text looks like a number below zero. -/
def looksNegative
    (s : Text) :
    Bool :=
  match s with
  | .char '-' :: cs =>
      endsInDigits cs ||
        match cs.dropWhile Text.isDecimalDigit with
        | .char '.' :: rest => endsInDigits rest
        | _ => false
  | _ => false

/-
  What a word is; several flags that it may be short for are an
  error, which lists them.
-/
def ofText
    (s : Text) :
    Except (List Text) Word :=
  if s.head? ≠ some (.char '-') ∨ s = "-" then .ok (plain s)
  else
    match spelledOut? s with
    | some w => .ok w
    | none =>
        match candidates s with
        | [(_, w)] => .ok w
        | [] =>
            if looksNegative s || s.contains ' ' then .ok (plain s)
            else .ok (unknownFlag s)
        | several => .error (several.map fun (spelling, _) => spelling)

end Word

end LabelPress

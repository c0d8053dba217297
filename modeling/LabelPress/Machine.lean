import LabelPress.Text.Basic

/-
  The machine that the program runs on.

  How far values and texts can be followed into each other, how
  long a text may become, what the output can hold, and how the
  words of a command line are read is settled by what lies under
  the program.  A machine fixes all of it.

  Key definitions include:
    * `Site`, where levels are counted
    * `WordReader`
    * `Machine`
    * `canPrint`
-/

namespace LabelPress

/-
  The sites of the program that follow something into its parts.
  Each has its own number of levels left, since each is reached
  through other calls.
-/
inductive Site where
  /- a JSON text, or a pattern, that is read -/
  | documentText
  | variablesText
  | pattern
  /- a value in a document, as it is named or complained about -/
  | elementType
  | elementId
  | position
  | documentComplaint
  /- the name of a unit or of a printer language -/
  | unit
  | unitComplaint
  | protocol
  | protocolComplaint
  /- a value in a notice -/
  | optionNotice
  | canvasNotice
  | failureNotice
  | directiveNotice
  /- a value in a stream -/
  | alignment
  | color
  | fill
  | zplData
  | eplData
  | dplData
  | opening
  | closing
  /- a value that is looked up -/
  | rotation
  | presetName
  /- a value of a variable, or in a complaint about variables -/
  | rendering
  | numeral
  | nameComplaint
  | typeComplaint
  | presetComplaint
  | limitComplaint
  deriving DecidableEq

/-
  How the words of a command line are read.  An earlier reader
  takes the mark that ends the flags out of every argument.  A
  later one leaves arguments as they are, and knows an equals sign
  behind a short flag wherever the flag stands.
-/
inductive WordReader where
  | earlier
  | later
  deriving DecidableEq

/- What the program runs on. -/
class Machine where
  /- the levels that are left at a site -/
  levels : Site → Nat
  /- the greatest width that a text can be filled up to -/
  width : Nat
  /- the most decimal places that a number can be printed with -/
  places : Nat
  /- an amount of money can be printed -/
  two_le_places : 2 ≤ places
  /- whether the output can hold a character -/
  prints : CodePoint → Bool
  /- the reader of command lines -/
  reader : WordReader

/- Whether the output can hold a text. -/
def canPrint
    [Machine]
    (t : Text) :
    Bool :=
  t.all Machine.prints

end LabelPress

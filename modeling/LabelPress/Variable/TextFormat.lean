import LabelPress.Fault
import LabelPress.Text.Case
import LabelPress.Text.Word
import LabelPress.Variable.Directive

/-
  Formats of texts and of truth values.

  For a text every directive is applied in turn: capitals, small
  letters, capitalised words, dropped blanks, a largest length, or
  blanks behind up to a width.  Other directives change nothing.
  A truth value is printed as one of two phrases.

  Key definitions include:
    * `TextFormat.title`
    * `TextFormat.apply`
    * `TextFormat.format`
    * `TruthFormat.format`
-/

namespace LabelPress

variable [Machine]

namespace TextFormat

/-
  Capitalise words.  A word starts at a word character and ends
  before the next blank; `skip` counts what is left of one.
-/
def titleFrom :
    Nat → Text → Text
  | _, [] => []
  | skip + 1, _ :: cs => titleFrom skip cs
  | 0, c :: cs =>
      if Text.isWord c then
        let rest := cs.takeWhile fun d => !Text.isBlank d
        Text.upperChar c ++ Text.lower rest ++
          titleFrom rest.length cs
      else c :: titleFrom 0 cs

/- Capitalise the words of a text. -/
def title
    (s : Text) :
    Text :=
  titleFrom 0 s

/- At most some characters, with an ellipsis for what is cut. -/
def truncate
    (length : Nat)
    (s : Text) :
    Text :=
  if length < s.length then
    s.take length ++ "..."
  else s

/- Blanks behind up to a width. -/
def padded
    (width : Nat)
    (s : Text) :
    Except Fault Text :=
  (Directive.fill width ' ' s).map (s ++ ·)

/- Apply a directive. -/
def apply
    (directive : Text)
    (s : Text) :
    Except Fault Text :=
  if directive = "upper" then .ok (Text.upper s)
  else if directive = "lower" then .ok (Text.lower s)
  else if directive = "title" then .ok (title s)
  else if directive = "trim" then .ok (Text.trim s)
  else if Directive.isNamed "truncate" directive then
    match Directive.argument? directive with
    | some length => .ok (truncate length s)
    | none => .ok s
  else if Directive.isNamed "pad" directive then
    match Directive.argument? directive with
    | some width => padded width s
    | none => .ok s
  else .ok s

/- Apply directives in order. -/
def applyAll
    (s : Text) :
    List Text → Except Fault Text
  | [] => .ok s
  | directive :: rest => do
      let t ← apply directive s
      applyAll t rest

/- A text in a format. -/
def format
    (s : Text)
    (spec : Text) :
    Except Fault Text :=
  applyAll s (Directive.split spec)

end TextFormat

namespace TruthFormat

/- The first phrase that is not empty. -/
def phrase
    (given : Text)
    (default : Text) :
    Text :=
  if given = "" then default else given

/- A truth value as one of the two phrases around a bar. -/
def format
    (b : Bool)
    (spec : Option Text) :
    Text :=
  let phrases := spec.getD ""
  if b then phrase (Text.upTo '|' phrases) "true"
  else phrase ((Text.onFrom '|' phrases).drop 1) "false"

end TruthFormat

end LabelPress

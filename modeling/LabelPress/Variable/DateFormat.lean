import LabelPress.Calendar.Iso

/-
  Formats of dates and moments.

  From left to right, the longest token at each place is replaced
  by a field of the moment, and any other character is copied.

  Key definitions include:
    * `DateFormat.tokens`
    * `DateFormat.render`
    * `DateFormat.standard`
-/

namespace LabelPress

namespace DateFormat

/- The names of the months. -/
def monthNames :
    List Text :=
  ["January", "February", "March", "April", "May", "June", "July",
    "August", "September", "October", "November", "December"]

/- The name of a month. -/
def monthName
    (month : Nat) :
    Text :=
  monthNames.getD (month - 1) ""

/- A token and the field that it stands for. -/
structure Token where
  letters : Text
  field : Moment → Text

/- The tokens, the longer ones of a letter first. -/
def tokens :
    List Token :=
  [⟨"YYYY", fun m => paddedDigits 4 m.date.year⟩,
    ⟨"YY", fun m => paddedDigits 2 (m.date.year % 100)⟩,
    ⟨"MMMM", fun m => monthName m.date.month⟩,
    ⟨"MMM", fun m => (monthName m.date.month).take 3⟩,
    ⟨"MM", fun m => paddedDigits 2 m.date.month⟩,
    ⟨"M", fun m => toString m.date.month⟩,
    ⟨"DD", fun m => paddedDigits 2 m.date.day⟩,
    ⟨"D", fun m => toString m.date.day⟩,
    ⟨"HH", fun m => paddedDigits 2 m.clock.hour⟩,
    ⟨"H", fun m => toString m.clock.hour⟩,
    ⟨"mm", fun m => paddedDigits 2 m.clock.minute⟩,
    ⟨"m", fun m => toString m.clock.minute⟩,
    ⟨"ss", fun m => paddedDigits 2 m.clock.second⟩,
    ⟨"s", fun m => toString m.clock.second⟩]

/- The token at the start. -/
def tokenAt?
    (cs : Text) :
    Option Token :=
  tokens.find? fun t => t.letters.isPrefixOf cs

/-
  Replace the tokens of a format.  `skip` counts the characters
  that the last token still covers.
-/
def renderFrom
    (m : Moment) :
    Nat → Text → Text
  | _, [] => []
  | skip + 1, _ :: cs => renderFrom m skip cs
  | 0, c :: cs =>
      match tokenAt? (c :: cs) with
      | some t =>
          t.field m ++ renderFrom m (t.letters.length - 1) cs
      | none => c :: renderFrom m 0 cs

/- The format that is used when none is given. -/
def standard :
    Text :=
  "MM/DD/YYYY"

/- A moment in a format; an empty one counts as none. -/
def render
    (m : Moment)
    (spec : Option Text) :
    Text :=
  let format :=
    match spec with
    | none => standard
    | some s => if s = "" then standard else s
  renderFrom m 0 format

end DateFormat

end LabelPress

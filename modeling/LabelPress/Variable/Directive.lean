import LabelPress.Fault
import LabelPress.Machine
import LabelPress.Text.Numeral

/-
  Directives of a format.

  A format is a list of directives between commas.  Some take a
  number after a colon, which must be a natural.

  Key definitions include:
    * `Directive.split`
    * `Directive.argument?`
    * `Directive.fill`
-/

namespace LabelPress

namespace Directive

/- The directives of a format, blanks around each dropped. -/
def split
    (format : Text) :
    List Text :=
  (Text.partsBetween ',' format).map Text.trim

/- Whether a directive has a name with its colon at the start. -/
def isNamed
    (name : Text)
    (directive : Text) :
    Bool :=
  (name ++ ":").isPrefixOf directive

/- The natural after the colon. -/
def argument?
    (directive : Text) :
    Option Nat :=
  let raw := (Text.onFrom ':' directive).drop 1
  match Text.integer? (Text.trim raw) with
  | some n => if 0 ≤ n then some n.toNat else none
  | none => none

/- The largest width that can be asked for. -/
def maxWidth :
    Nat :=
  9223372036854775807

/- The largest number of places that can be asked for. -/
def maxPlaces :
    Nat :=
  2147483647

/- The fill that brings a text to a width, if that can be held. -/
def fill
    [Machine]
    (width : Nat)
    (c : CodePoint)
    (s : Text) :
    Except Fault Text :=
  if maxWidth < width then .error .widthTooLarge
  else if s.length < width ∧ Machine.width < width then
    .error .textTooLong
  else .ok (Text.run c (width - s.length))

end Directive

end LabelPress

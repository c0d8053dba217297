import LabelPress.Outcome
import LabelPress.Value.Display
import LabelPress.Value.Number
import LabelPress.Variable.Directive

/-
  Formats of numbers.

  The first directive that applies decides: a number of decimal
  places, a currency, a percentage, or zeros in front up to a
  width.  One that does not apply is passed over, and with none
  left the number is printed plainly, if its numeral is not too
  long.

  Key definitions include:
    * `NumberFormat.plain`, `NumberFormat.unformatted`
    * `NumberFormat.perform?`
    * `NumberFormat.format`
-/

namespace LabelPress

variable [Machine]

namespace NumberFormat

------------------------------------------------------------
-- Plain Numbers
------------------------------------------------------------

/- A number without a format. -/
def plain
    (v : Value) :
    Text :=
  match v with
  | .double .nan => "NaN"
  | .double (.infinite s) => if s then "-Infinity" else "Infinity"
  | .double x =>
      if x.isIntegral then toString (x.truncate?.getD 0) else v.toText
  | v => v.toText

/- A number without a format, which must be one that can be shown. -/
def unformatted
    (v : Value) :
    Except Fault Text := do
  v.checkShown .numeral
  return plain v

/- Zeros in front up to a width. -/
def padded
    (width : Nat)
    (s : Text) :
    Except Fault Text :=
  (Directive.fill width '0' s).map (· ++ s)

------------------------------------------------------------
-- Directives
------------------------------------------------------------

/- Whether a fault lets the next directive decide. -/
def letsPass :
    Fault → Bool
  | .wrongKind => false
  | .textTooLong => false
  | .nestedTooDeep => false
  | _ => true

/-
  What a directive gives for a value.  A fault that lets the next
  directive decide leaves a notice; any other one stays.
-/
def attempt
    (directive : Text)
    (v : Value) :
    Except Fault Text → Outcome (Option Text)
  | .ok s => .ok (some s)
  | .error f =>
      if letsPass f then do
        Outcome.noteShown (v.checkShown .directiveNotice)
          (.directiveFailed directive v.inspected)
        return none
      else .fail f

/- A number of decimal places, unless there are too many. -/
def decimals
    (places : Nat)
    (x : Double) :
    Except Fault Text :=
  if Directive.maxPlaces < places then .error .widthTooLarge
  else if x.isFinite ∧ Machine.places < places then
    .error .textTooLong
  else .ok (x.fixed places)

/- A sign, the currency mark, and two grouped decimal places. -/
def currency
    (x : Double) :
    Text :=
  (if Double.lt x 0 then "-" else "") ++ "$" ++ x.abs.fixedGrouped 2

/- A percentage with one decimal place. -/
def percent
    (x : Double) :
    Text :=
  (x * 100).fixed 1 ++ "%"

/- The text that a directive gives, if it applies. -/
def perform?
    (directive : Text)
    (v : Value) :
    Outcome (Option Text) :=
  if Directive.isNamed "decimal" directive then
    match Directive.argument? directive with
    | none => .ok none
    | some places => attempt directive v (v.toDouble.bind (decimals places))
  else if directive = "currency" then
    attempt directive v (v.toDouble.map currency)
  else if directive = "percent" then
    attempt directive v (v.toDouble.map percent)
  else if Directive.isNamed "pad" directive then
    match Directive.argument? directive with
    | none => .ok none
    | some width =>
        attempt directive v ((unformatted v).bind (padded width))
  else .ok none

/- The text that the first applicable directive gives. -/
def applyFirst
    (v : Value) :
    List Text → Outcome Text
  | [] => Outcome.lift (unformatted v)
  | directive :: rest => do
      match ← perform? directive v with
      | some s => return s
      | none => applyFirst v rest

/- A number in a format. -/
def format
    (v : Value) :
    Option Text → Outcome Text
  | none => Outcome.lift (unformatted v)
  | some spec =>
      if spec = "" then Outcome.lift (unformatted v)
      else applyFirst v (Directive.split spec)

end NumberFormat

end LabelPress

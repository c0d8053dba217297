import LabelPress.Text.Pattern.Search
import LabelPress.Value.Number
import LabelPress.Variable.Definition

/-
  Values checked against definitions.

  The type of a value is checked first, then the rules in order;
  the first failure ends the check.  A value with no complaint
  about it is valid, and a complaint is reported as an error.

  Key definitions include:
    * `VariableType.complaint?`
    * `Complaint`, with `Complaint.message`
    * `VariableDefinition.check`
    * `VariableDefinition.validate`, with its `ValidationResult`
-/

namespace LabelPress

variable [Machine]

------------------------------------------------------------
-- Complaints
------------------------------------------------------------

/- What is wrong with a value. -/
inductive Complaint where
  | notText
  | notNumber
  | notDate
  | notBoolean
  | missing
  | tooShort (least : Text)
  | tooLong (most : Text)
  | tooSmall (least : Text)
  | tooLarge (most : Text)
  | noMatch
  deriving DecidableEq

/- The wording of a complaint. -/
def Complaint.message :
    Complaint → Text
  | notText => "Value must be a string"
  | notNumber => "Value must be a number"
  | notDate => "Value must be a valid date"
  | notBoolean => "Value must be a boolean"
  | missing => "Value is required"
  | tooShort least => "Minimum length is " ++ least
  | tooLong most => "Maximum length is " ++ most
  | tooSmall least => "Minimum value is " ++ least
  | tooLarge most => "Maximum value is " ++ most
  | noMatch => "Value does not match required pattern"

------------------------------------------------------------
-- Types
------------------------------------------------------------

/-
  Whether a value is a number other than the undefined one.  An
  integer must be in the range of doubles.
-/
def isDefinedNumber :
    Value → Except Fault Bool
  | .int n => do
      let _ ← Value.doubleOfInt n
      return true
  | .double x => .ok !x.isNaN
  | _ => .ok false

/- Whether a value is a date or reads as one. -/
def isDateLike :
    Value → Bool
  | .date _ => true
  | .moment _ => true
  | .text s => (Moment.ofText? s).isSome
  | _ => false

/- Whether a value is a text. -/
def isTextValue :
    Value → Bool
  | .text _ => true
  | _ => false

/- Whether a value is a truth value. -/
def isTruthValue :
    Value → Bool
  | .bool _ => true
  | _ => false

/- A complaint unless a condition holds. -/
def complainUnless
    (holds : Bool)
    (c : Complaint) :
    Option Complaint :=
  if holds then none else some c

/- The complaint of a type about a value. -/
def VariableType.complaint?
    (v : Value) :
    VariableType → Except Fault (Option Complaint)
  | .text => .ok (complainUnless (isTextValue v) .notText)
  | .number => do
      let defined ← isDefinedNumber v
      return complainUnless defined .notNumber
  | .date => .ok (complainUnless (isDateLike v) .notDate)
  | .boolean => .ok (complainUnless (isTruthValue v) .notBoolean)
  | .barcode => .ok none
  | .image => .ok none

------------------------------------------------------------
-- Rules
------------------------------------------------------------

/- A rule: its complaint about a value, if any. -/
abbrev Rule :=
  Value → Except Fault (Option Complaint)

namespace Rule

/- A value must be present. -/
def required
    (flag : Value) :
    Rule :=
  fun v =>
    .ok (complainUnless (!(flag.truthy && (v.isNull || v.isEmptyText)))
      .missing)

/- A complaint that shows a limit, if the limit is broken. -/
def complainAbout
    (limit : Value)
    (broken : Bool)
    (complaint : Text → Complaint) :
    Except Fault (Option Complaint) :=
  if broken then do
    limit.checkShown .limitComplaint
    return some (complaint limit.toText)
  else .ok none

/- Compare the length of a text with a limit. -/
def length
    (limit : Value)
    (bad : Ordering)
    (complaint : Text → Complaint) :
    Rule
  | .text s =>
      if limit.isNull then .ok none
      else do
        let order ← Value.compareNumber (.int s.length) limit
        complainAbout limit (order == some bad) complaint
  | _ => .ok none

/- Compare a defined number with a limit. -/
def magnitude
    (limit : Value)
    (bad : Ordering)
    (complaint : Text → Complaint) :
    Rule :=
  fun v =>
    if limit.isNull then .ok none
    else do
      let defined ← isDefinedNumber v
      match defined, v.numeric? with
      | true, some x => do
          let order ← Value.compareNumber x limit
          complainAbout limit (order == some bad) complaint
      | _, _ => return none

/- The fault of a text that is no pattern. -/
def patternFault :
    PatternProblem → Fault
  | .unreadable => .invalidPattern
  | .countTooLarge => .countTooLarge
  | .tooManyDigits count => .tooManyDigits Text.maxIntegerDigits count
  | .flagsAtOdds => .flagsAtOdds
  | .nestedTooDeep => .nestedTooDeep

/- A pattern must occur in a text. -/
def pattern
    (given : Value) :
    Rule
  | .text s =>
      if given.truthy then
        match given with
        | .text p =>
            match PatternSearch.ofText (Machine.levels .pattern) p with
            | .ok search => .ok (complainUnless (search.succeeds s) .noMatch)
            | .error problem => .error (patternFault problem)
        | _ => .error .wrongKind
      else .ok none
  | _ => .ok none

/- The first complaint of some rules about a value. -/
def first
    (v : Value) :
    List Rule → Except Fault (Option Complaint)
  | [] => .ok none
  | rule :: rest => do
      match ← rule v with
      | some c => return some c
      | none => first v rest

end Rule

/- The rules in the order in which they are tried. -/
def ValidationRules.inOrder
    (r : ValidationRules) :
    List Rule :=
  [Rule.required r.required,
    Rule.length r.minLength .lt .tooShort,
    Rule.length r.maxLength .gt .tooLong,
    Rule.magnitude r.minimum .lt .tooSmall,
    Rule.magnitude r.maximum .gt .tooLarge,
    Rule.pattern r.pattern]

/- The complaint about a value, if there is one. -/
def VariableDefinition.check
    (d : VariableDefinition)
    (v : Value) :
    Except Fault (Option Complaint) := do
  match ← d.type.complaint? v with
  | some c => return some c
  | none => do
      let rules ← d.rules.get
      Rule.first v rules.inOrder

------------------------------------------------------------
-- Results
------------------------------------------------------------

/- Whether a value is valid, and the errors in it. -/
structure ValidationResult where
  isValid : Bool := true
  errors : List Text := []
  deriving DecidableEq

/- The result with one more error, which makes it not valid. -/
def ValidationResult.fail
    (r : ValidationResult)
    (error : Text) :
    ValidationResult :=
  { isValid := false
    errors := r.errors ++ [error] }

/- The result for a value. -/
def VariableDefinition.validate
    (d : VariableDefinition)
    (v : Value) :
    Except Fault ValidationResult := do
  match ← d.check v with
  | none => return {}
  | some c => return ValidationResult.fail {} c.message

end LabelPress

import LabelPress.Double.Rounding
import LabelPress.Value.Basic

/-
  Values as numbers.

  Booleans count as 0 and 1, texts are read as numerals, and an
  integer must lie in the range of doubles.  Three readings
  differ in what becomes of a value that is no number: a fault, a
  default, or the undefined number.  An integer out of range is a
  fault for all three.

  Key definitions include:
    * `Value.toDouble`
    * `Value.doubleOr`
    * `Value.doubleOrNaN`
    * `Value.roundedHalfAway`
    * `Value.compareNumber`
-/

namespace LabelPress

namespace Value

------------------------------------------------------------
-- Readings
------------------------------------------------------------

/- An integer in the range of doubles. -/
def doubleOfInt
    (n : Int) :
    Except Fault Double :=
  match Double.ofInt? n with
  | some x => .ok x
  | none => .error .integerTooLarge

/- The number that a value denotes. -/
def toDouble :
    Value → Except Fault Double
  | .bool b => .ok (if b then 1 else 0)
  | .int n => doubleOfInt n
  | .double x => .ok x
  | .text s =>
      match Text.double? s with
      | some x => .ok x
      | none => .error (.notNumeric s)
  | _ => .error .wrongKind

/- The number that a value denotes, or a default. -/
def doubleOr
    (default : Double)
    (v : Value) :
    Except Fault Double :=
  match v.toDouble with
  | .error (.notNumeric _) => .ok default
  | .error .wrongKind => .ok default
  | r => r

/- The number that a value denotes, or the undefined number. -/
def doubleOrNaN
    (v : Value) :
    Except Fault Double :=
  v.doubleOr .nan

/- Zero for a number that is not finite. -/
def finiteOrZero
    (x : Double) :
    Double :=
  if x.isFinite then x else 0

/- The finite number that a value denotes, or zero. -/
def finiteDouble
    (v : Value) :
    Except Fault Double := do
  let x ← v.doubleOr 0
  return finiteOrZero x

/- The number that a value denotes, halves away from zero. -/
def roundedHalfAway
    (v : Value) :
    Except Fault Int := do
  let x ← v.doubleOrNaN
  return x.halfAway

/- The whole part of a value's finite number, or zero. -/
def wholePart
    (v : Value) :
    Except Fault Int := do
  let x ← v.doubleOr 0
  return x.truncate?.getD 0

------------------------------------------------------------
-- Comparison
------------------------------------------------------------

/- A number as it takes part in comparisons. -/
inductive Numeric where
  | int (n : Int)
  | double (x : Double)

/- The number in a value; texts are none. -/
def numeric? :
    Value → Option Numeric
  | .bool b => some (.int (if b then 1 else 0))
  | .int n => some (.int n)
  | .double x => some (.double x)
  | _ => none

/- Compare two numbers exactly; none when one is undefined. -/
def Numeric.compare? :
    Numeric → Numeric → Option Ordering
  | .int m, .int n => some (compare m n)
  | .int m, .double y => (y.compareInt? m).map Ordering.swap
  | .double x, .int n => x.compareInt? n
  | .double x, .double y => Double.compare? x y

/- Compare a number with a value, which must be a number too. -/
def compareNumber
    (x : Numeric)
    (v : Value) :
    Except Fault (Option Ordering) :=
  match v.numeric? with
  | some y => .ok (x.compare? y)
  | none => .error .wrongKind

/- Whether a value is the given integer, in any numeric kind. -/
def isInt
    (v : Value)
    (n : Int) :
    Bool :=
  match v.numeric? with
  | some x => x.compare? (.int n) == some .eq
  | none => false

end Value

end LabelPress

import LabelPress.Double.Basic

/-
  From doubles to integers.

  Four rules take a finite double to an integer: dropping the
  fraction, the nearest integer with ties to even, the integer
  part of the magnitude plus one half, and the floor of an
  integral quotient.  Numbers that are not finite have none.

  Key definitions include:
    * `Double.truncate?`
    * `Double.nearestEven?`
    * `Double.halfAway`, the rule for printed coordinates
-/

namespace LabelPress

namespace Double

/- Drop the fraction. -/
def truncate? :
    Double → Option Int
  | .finite s m e _ =>
      some (signed s (scaleUp m e / scaleUp 1 (-e)))
  | _ => none

/- The nearest integer, ties to even. -/
def nearestEven? :
    Double → Option Int
  | .finite s m e _ =>
      some (signed s (divNearest (scaleUp m e) (scaleUp 1 (-e))))
  | _ => none

/- Whether a double is a whole number. -/
def isIntegral :
    Double → Bool
  | .finite _ m e _ => scaleUp m e % scaleUp 1 (-e) == 0
  | _ => false

/- Whether a double carries a minus sign. -/
def isNegative :
    Double → Bool
  | .nan => false
  | .infinite s => s
  | .finite s _ _ _ => s

/- One half. -/
def half :
    Double :=
  ofRatio false 1 2

/-
  Round half away from zero: add one half to the magnitude, drop
  the fraction, restore the sign.  What is not finite is zero.
-/
def halfAway
    (x : Double) :
    Int :=
  if x.isFinite then
    match (x.abs + half).truncate? with
    | some n => if x.isNegative then -n else n
    | none => 0
  else 0

/- A quotient of integers rounded once; none when out of range. -/
def ofQuotient?
    (num : Int)
    (den : Nat) :
    Option Double :=
  match ofRatio (decide (num < 0)) num.natAbs den with
  | .infinite _ => none
  | x => some x

end Double

end LabelPress

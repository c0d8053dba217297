/-
  Binary numbers with 53 significant bits.

  A finite number is a sign, a mantissa and a power of two in
  their unique form.  Every operation computes its exact result
  and rounds it once, to the nearest number, an exact tie going
  to the even mantissa.

  Key definitions include:
    * `Double`, with `Double.Canonical` for the unique form
    * `Double.ofRatio`, the one place where rounding happens
    * `Double.add`, `Double.mul`, `Double.div`
    * `Double.lt`, `Double.le`, the order in which the
      undefined number takes no part
-/

namespace LabelPress

------------------------------------------------------------
-- Rounded Quotients
------------------------------------------------------------

/- Round a quotient to the nearest natural, ties to even. -/
def divNearest
    (num : Nat)
    (den : Nat) :
    Nat :=
  let q := num / den
  let r := num % den
  if 2 * r < den then q
  else if den < 2 * r then q + 1
  else q + q % 2

/- Multiply by two to a non-negative part of an exponent. -/
def scaleUp
    (n : Nat)
    (e : Int) :
    Nat :=
  n <<< e.toNat

------------------------------------------------------------
-- The Type
------------------------------------------------------------

/-
  A mantissa and an exponent in their unique form: the mantissa
  has at most 53 bits, and all of them unless the exponent is the
  least one.
-/
def Double.Canonical
    (m : Nat)
    (e : Int) :
    Prop :=
  m < 9007199254740992 ∧ -1074 ≤ e ∧ e ≤ 971 ∧
    (4503599627370496 ≤ m ∨ e = -1074)

instance
    (m : Nat)
    (e : Int) :
    Decidable (Double.Canonical m e) := by
  unfold Double.Canonical
  infer_instance

/-
  A double is undefined, infinite, or a signed mantissa times
  a power of two.  Zero keeps its sign.
-/
inductive Double where
  | nan
  | infinite (negative : Bool)
  | finite
      (negative : Bool)
      (m : Nat)
      (e : Int)
      (canonical : Double.Canonical m e)
  deriving DecidableEq

namespace Double

/- A zero of the given sign. -/
def zero
    (negative : Bool) :
    Double :=
  .finite negative 0 (-1074) (by decide)

instance : Inhabited Double :=
  ⟨zero false⟩

------------------------------------------------------------
-- Rounding
------------------------------------------------------------

/-
  Carry a rounded mantissa into the unique form.  A mantissa
  that rounding has filled up moves to the next exponent, and
  what exceeds the largest exponent is infinite.
-/
def pack
    (negative : Bool)
    (m : Nat)
    (e : Int) :
    Double :=
  if h : Canonical m e then .finite negative m e h
  else if h :
      m = 9007199254740992 ∧ Canonical 4503599627370496 (e + 1) then
    .finite negative 4503599627370496 (e + 1) h.2
  else .infinite negative

/-
  The exponent at which a positive quotient has 53 bits before
  the point.
-/
def exponentOf
    (num : Nat)
    (den : Nat) :
    Int :=
  let e : Int := num.log2 - den.log2 - 52
  if scaleUp num (-(e + 52)) < scaleUp den (e + 52) then e - 1
  else e

/- The double nearest to a quotient, ties to even. -/
def ofRatio
    (negative : Bool)
    (num : Nat)
    (den : Nat) :
    Double :=
  if num = 0 then zero negative
  else
    let e := max (-1074) (exponentOf num den)
    pack negative (divNearest (scaleUp num (-e)) (scaleUp den e)) e

/- The double nearest to a scaled natural. -/
def ofScaled
    (negative : Bool)
    (m : Nat)
    (e : Int) :
    Double :=
  ofRatio negative (scaleUp m e) (scaleUp 1 (-e))

/- The double nearest to an integer. -/
def ofInt
    (n : Int) :
    Double :=
  ofRatio (decide (n < 0)) n.natAbs 1

/- The double nearest to an integer that is in range. -/
def ofInt?
    (n : Int) :
    Option Double :=
  match ofInt n with
  | .infinite _ => none
  | x => some x

instance (n : Nat) : OfNat Double n :=
  ⟨ofInt n⟩

------------------------------------------------------------
-- Classes and Signs
------------------------------------------------------------

/- The undefined number. -/
def isNaN :
    Double → Bool
  | .nan => true
  | _ => false

/- Neither undefined nor infinite. -/
def isFinite :
    Double → Bool
  | .finite .. => true
  | _ => false

/- Either zero. -/
def isZero :
    Double → Bool
  | .finite _ m _ _ => m == 0
  | _ => false

/- Flip the sign. -/
def neg :
    Double → Double
  | .nan => .nan
  | .infinite s => .infinite (!s)
  | .finite s m e h => .finite (!s) m e h

/- Drop the sign. -/
def abs :
    Double → Double
  | .nan => .nan
  | .infinite _ => .infinite false
  | .finite _ m e h => .finite false m e h

/- Give a magnitude its sign. -/
def signed
    (negative : Bool)
    (n : Nat) :
    Int :=
  if negative then -(n : Int) else n

------------------------------------------------------------
-- Arithmetic
------------------------------------------------------------

/-
  Add.  A sum that is exactly zero is negative only when both
  terms are.
-/
def add :
    Double → Double → Double
  | .nan, _ => .nan
  | _, .nan => .nan
  | .infinite s, .infinite t => if s = t then .infinite s else .nan
  | .infinite s, .finite .. => .infinite s
  | .finite .., .infinite t => .infinite t
  | .finite s m e _, .finite t n f _ =>
      let low := min e f
      let total :=
        signed s (scaleUp m (e - low)) + signed t (scaleUp n (f - low))
      if total = 0 then zero (s && t)
      else ofScaled (decide (total < 0)) total.natAbs low

/- Subtract. -/
def sub
    (x : Double)
    (y : Double) :
    Double :=
  add x (neg y)

/- Multiply. -/
def mul :
    Double → Double → Double
  | .nan, _ => .nan
  | _, .nan => .nan
  | .infinite s, .infinite t => .infinite (s ^^ t)
  | .infinite s, .finite t n _ _ =>
      if n = 0 then .nan else .infinite (s ^^ t)
  | .finite s m _ _, .infinite t =>
      if m = 0 then .nan else .infinite (s ^^ t)
  | .finite s m e _, .finite t n f _ =>
      ofScaled (s ^^ t) (m * n) (e + f)

/- Divide. -/
def div :
    Double → Double → Double
  | .nan, _ => .nan
  | _, .nan => .nan
  | .infinite _, .infinite _ => .nan
  | .infinite s, .finite t _ _ _ => .infinite (s ^^ t)
  | .finite s _ _ _, .infinite t => zero (s ^^ t)
  | .finite s m e _, .finite t n f _ =>
      if n = 0 then if m = 0 then .nan else .infinite (s ^^ t)
      else
        ofRatio (s ^^ t) (scaleUp m (e - f)) (scaleUp n (f - e))

instance : Neg Double := ⟨neg⟩
instance : Add Double := ⟨add⟩
instance : Sub Double := ⟨sub⟩
instance : Mul Double := ⟨mul⟩
instance : Div Double := ⟨div⟩

------------------------------------------------------------
-- Order
------------------------------------------------------------

/-
  Compare two doubles by value.  There is no answer when one of
  them is undefined; the two zeros are equal.
-/
def compare? :
    Double → Double → Option Ordering
  | .nan, _ => none
  | _, .nan => none
  | .infinite s, .infinite t =>
      some (if s = t then .eq else if s then .lt else .gt)
  | .infinite s, .finite .. => some (if s then .lt else .gt)
  | .finite .., .infinite t => some (if t then .gt else .lt)
  | .finite s m e _, .finite t n f _ =>
      let low := min e f
      some (compare
        (signed s (scaleUp m (e - low)))
        (signed t (scaleUp n (f - low))))

/- Compare a double with an integer, exactly. -/
def compareInt? :
    Double → Int → Option Ordering
  | .nan, _ => none
  | .infinite s, _ => some (if s then .lt else .gt)
  | .finite s m e _, n =>
      some (compare (signed s (scaleUp m e)) (n * scaleUp 1 (-e)))

/- Strictly below, and both are defined. -/
def lt
    (x : Double)
    (y : Double) :
    Bool :=
  compare? x y == some .lt

/- At most, and both are defined. -/
def le
    (x : Double)
    (y : Double) :
    Bool :=
  compare? x y == some .lt || compare? x y == some .eq

/-
  The first of two unless the second is above it.  An undefined
  second is never above; an undefined first stays.
-/
def larger
    (x : Double)
    (y : Double) :
    Double :=
  if lt x y then y else x

/-
  The first of two unless the second is below it.
-/
def smaller
    (x : Double)
    (y : Double) :
    Double :=
  if lt y x then y else x

end Double

end LabelPress

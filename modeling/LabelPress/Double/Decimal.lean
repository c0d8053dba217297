import LabelPress.Double.Basic

/-
  Decimals, and the shortest decimal that names a double.

  A decimal is a natural number times a power of ten.  Reading
  one rounds it to the nearest double.  The shortest decimal of a
  double is found on the grids of one, two, ... seventeen digits:
  the first grid with a point that reads back wins, and of two
  such points the nearer one.

  Key definitions include:
    * `Decimal`
    * `Double.ofDecimal`
    * `Double.shortest`
-/

namespace LabelPress

------------------------------------------------------------
-- Decimals
------------------------------------------------------------

/- A natural number times a power of ten. -/
structure Decimal where
  digits : Nat
  exponent : Int
  deriving DecidableEq

/- The number of decimal digits of a natural. -/
def digitCount
    (n : Nat) :
    Nat :=
  (Nat.toDigits 10 n).length

/- Multiply by ten to a non-negative part of an exponent. -/
def tenfold
    (n : Nat)
    (e : Int) :
    Nat :=
  n * Nat.pow 10 e.toNat

namespace Decimal

/- Drop trailing zeros, at most as many as there is fuel. -/
def trimFrom
    (fuel : Nat)
    (d : Decimal) :
    Decimal :=
  match fuel with
  | 0 => d
  | fuel + 1 =>
      if d.digits ≠ 0 ∧ d.digits % 10 = 0 then
        trimFrom fuel ⟨d.digits / 10, d.exponent + 1⟩
      else d

/- Drop all trailing zeros of the digits. -/
def trim
    (d : Decimal) :
    Decimal :=
  trimFrom (digitCount d.digits) d

end Decimal

namespace Double

------------------------------------------------------------
-- Reading
------------------------------------------------------------

/-
  The double nearest to a decimal.  A decimal far outside the
  range of doubles is settled by its magnitude alone.
-/
def ofDecimal
    (negative : Bool)
    (d : Decimal) :
    Double :=
  if d.digits = 0 then zero negative
  else
    let magnitude := d.exponent + digitCount d.digits
    if 310 < magnitude then .infinite negative
    else if magnitude < -330 then zero negative
    else
      ofRatio negative
        (tenfold d.digits d.exponent)
        (tenfold 1 (-d.exponent))

------------------------------------------------------------
-- Shortest Decimals
------------------------------------------------------------

/-
  The least power of ten above a positive quotient, as an
  exponent.
-/
def decimalScale
    (num : Nat)
    (den : Nat) :
    Int :=
  if den ≤ num then digitCount (num / den)
  else
    let l := digitCount (den / num)
    if tenfold num (l - 1) = den then 2 - (l : Int) else 1 - (l : Int)

/-
  The two neighbours of a positive quotient on a decimal grid,
  the nearer one first and an exact tie led by the even one.
-/
def neighbours
    (num : Nat)
    (den : Nat)
    (grid : Int) :
    List Decimal :=
  let n := tenfold num (-grid)
  let d := tenfold den grid
  let near := divNearest n d
  let below := n / d
  let other := if near = below then below + 1 else below
  [⟨near, grid⟩, ⟨other, grid⟩]

/- The magnitude of a finite double as a quotient. -/
def ratio
    (m : Nat)
    (e : Int) :
    Nat × Nat :=
  (scaleUp m e, scaleUp 1 (-e))

/- The fewest digits that read back to a positive double. -/
def shortestOf
    (m : Nat)
    (e : Int)
    (h : Canonical m e) :
    Decimal :=
  let (num, den) := ratio m e
  let scale := decimalScale num den
  let candidates :=
    (List.range 17).flatMap fun (n : Nat) =>
      neighbours num den (scale - (n + 1))
  let found :=
    candidates.find? fun d =>
      ofDecimal false d == .finite false m e h
  (found.getD ⟨divNearest (tenfold num (17 - scale)) (tenfold den (scale - 17)), scale - 17⟩).trim

/- The shortest decimal of a finite magnitude. -/
def shortest :
    Double → Decimal
  | .finite _ m e h => if m = 0 then ⟨0, 0⟩ else shortestOf m e h
  | _ => ⟨0, 0⟩

end Double

end LabelPress

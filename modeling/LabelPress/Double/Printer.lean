import LabelPress.Double.Decimal
import LabelPress.Double.Rounding
import LabelPress.Text.Basic

/-
  The written forms of doubles.

  The natural form uses the shortest decimal: positional while
  the leading digit stands between ten to the -4 and ten to the
  15, else with a signed exponent of at least two digits.  The
  fixed form rounds the exact value to a number of places, ties
  to even, and may group the digits before the point by threes.

  Key definitions include:
    * `Double.toText`
    * `Double.fixed`
    * `groupThousands`
-/

namespace LabelPress

------------------------------------------------------------
-- Digits
------------------------------------------------------------

/- The decimal digits of a natural, zeros in front up to a width. -/
def paddedDigits
    (width : Nat)
    (n : Nat) :
    Text :=
  let ds := Text.digits 10 n
  Text.run '0' (width - ds.length) ++ ds

/- Set a comma between each two groups of three from the right. -/
def groupThousands :
    Text → Text
  | [] => []
  | c :: cs =>
      if cs.length % 3 = 0 ∧ cs ≠ [] then c :: ',' :: groupThousands cs
      else c :: groupThousands cs

/- A minus sign or nothing. -/
def signText
    (negative : Bool) :
    Text :=
  if negative then "-" else ""

namespace Double

------------------------------------------------------------
-- Natural Form
------------------------------------------------------------

/- A signed exponent of at least two digits. -/
def exponentText
    (e : Int) :
    Text :=
  (if e < 0 then '-' else '+') :: paddedDigits 2 e.natAbs

/- Set the point into the digits of a decimal. -/
def layout
    (d : Decimal) :
    Text :=
  let ds := Text.digits 10 d.digits
  let point : Int := ds.length + d.exponent
  let lead := point - 1
  if -4 ≤ lead ∧ lead < 16 then
    if 0 < point then
      if ds.length ≤ point.toNat then
        ds ++ Text.run '0' (point.toNat - ds.length) ++ ".0"
      else ds.take point.toNat ++ "." ++ ds.drop point.toNat
    else "0." ++ Text.run '0' (-point).toNat ++ ds
  else
    match ds with
    | [] => []
    | [c] => c :: "e" ++ exponentText lead
    | c :: cs => c :: "." ++ cs ++ "e" ++ exponentText lead

/- The natural form. -/
def toText
    (x : Double) :
    Text :=
  match x with
  | .nan => "nan"
  | .infinite s => if s then "-inf" else "inf"
  | .finite s m _ _ =>
      let body : Text := if m = 0 then "0.0" else layout x.shortest
      signText s ++ body

------------------------------------------------------------
-- Fixed Form
------------------------------------------------------------

/- The whole and the fractional digits of a rounded magnitude. -/
def fixedDigits
    (places : Nat)
    (m : Nat)
    (e : Int) :
    Text × Text :=
  let (num, den) := ratio m e
  let ds := paddedDigits (places + 1) (divNearest (tenfold num places) den)
  (ds.take (ds.length - places), ds.drop (ds.length - places))

/-
  The most places that a double can fill: its least digit stands
  for two to the -1074, and each further place is a zero.
-/
def exactPlaces :
    Nat :=
  1074

/-
  A fixed number of places, with the digits before the point
  passed through a grouping.
-/
def fixedWith
    (group : Text → Text)
    (places : Nat)
    (x : Double) :
    Text :=
  match x with
  | .nan => "nan"
  | .infinite s => signText s ++ "inf"
  | .finite s m e _ =>
      let (whole, fraction) := fixedDigits (min places exactPlaces) m e
      let zeros := Text.run '0' (places - exactPlaces)
      let part : Text :=
        if places = 0 then "" else "." ++ fraction ++ zeros
      signText s ++ group whole ++ part

/- A fixed number of places. -/
def fixed
    (places : Nat)
    (x : Double) :
    Text :=
  fixedWith id places x

/- A fixed number of places, grouped by thousands. -/
def fixedGrouped
    (places : Nat)
    (x : Double) :
    Text :=
  fixedWith groupThousands places x

end Double

end LabelPress

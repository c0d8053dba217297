import LabelPress.Printer.Options
import LabelPress.Printer.Field

/-
  Doubles that come to no dots.

  A zero and the undefined number are both rounded to zero, and
  scaling keeps them what they are, up to a zero that an infinite
  resolution makes undefined.  So it makes no difference to a
  single printed coordinate which of the two it is.

  Main declarations:
    * `Double.vanishes`
    * `Double.vanishes_mul`, `Double.halfAway_of_vanishes`
    * `Scale.wholeDots_of_vanishes`
-/

namespace LabelPress

namespace Double

/- Whether a double is a zero or undefined. -/
def vanishes
    (x : Double) :
    Bool :=
  x.isNaN || x.isZero

/- Of all finite doubles only the zeros vanish. -/
theorem eq_of_vanishes
    {x : Double}
    (hVanishes : x.vanishes = true) :
    x = .nan ∨ ∃ s, x = zero s := by
  cases x with
  | nan => exact .inl rfl
  | infinite s => cases hVanishes
  | finite s m e hCanonical =>
      obtain rfl : m = 0 := by
        simpa [vanishes, isNaN, isZero] using hVanishes
      have hExponent : e = -1074 := by
        have hForm := hCanonical.2.2.2
        omega
      subst hExponent
      exact .inr ⟨s, rfl⟩

/- What vanishes does so after scaling. -/
theorem vanishes_mul
    {x : Double}
    (hVanishes : x.vanishes = true)
    (y : Double) :
    (x * y).vanishes = true := by
  change (mul x y).vanishes = true
  rcases eq_of_vanishes hVanishes with rfl | ⟨s, rfl⟩
  · rfl
  · cases y with
    | nan => rfl
    | infinite t => rfl
    | finite t n f hCanonical =>
        have hNone : scaleUp 0 (-1074 + f) = 0 :=
          Nat.zero_shiftLeft _
        rw [zero, mul, Nat.zero_mul, ofScaled, hNone, ofRatio,
          if_pos rfl]
        rfl

theorem halfAway_of_vanishes
    {x : Double}
    (hVanishes : x.vanishes = true) :
    x.halfAway = 0 := by
  rcases eq_of_vanishes hVanishes with rfl | ⟨s, rfl⟩
  · rfl
  · cases s with
    | false => decide +kernel
    | true => decide +kernel

end Double

theorem LengthUnit.vanishes_toDots
    {x : Double}
    (hVanishes : x.vanishes = true)
    (unit : LengthUnit)
    (resolution : Double) :
    (unit.toDots resolution x).vanishes = true := by
  unfold toDots
  cases unit.inches? with
  | none => exact hVanishes
  | some inches =>
      exact Double.vanishes_mul
        (Double.vanishes_mul hVanishes inches) resolution

/- A length that is zero or undefined has no dots. -/
theorem Scale.wholeDots_of_vanishes
    {x : Double}
    (hVanishes : x.vanishes = true)
    (s : Scale) :
    s.wholeDots x = 0 :=
  Double.halfAway_of_vanishes
    (LengthUnit.vanishes_toDots hVanishes s.units s.resolution)

end LabelPress

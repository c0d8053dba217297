import LabelPress.Double.Printer
import LabelPress.Proofs.Double.Range
import LabelPress.Proofs.Text.ReadNumbers
import Mathlib.Algebra.Order.Group.Unbundled.Int

/-
  Integers as doubles.

  The doubles around an integer of more than 53 bits are the
  multiples of a power of two, and the integer becomes the nearest
  one of them, the even one on a tie.  Up to 53 bits it stays what
  it is.  A double that is whole is printed as the numeral of its
  integer and zeros behind the point.

  Main declarations:
    * `Double.spacing`, `Double.IsNearestWhole`
    * `Double.exists_ofInt?`
    * `Double.fixed_of_whole`
-/

namespace LabelPress

namespace Double

------------------------------------------------------------
-- Rounded Quotients
------------------------------------------------------------

section Quotients

variable {den : Nat}

/- A quotient is rounded by at most one half. -/
theorem divNearest_near
    (num : Nat)
    (hDen : 0 < den) :
    2 * ((num : Int) - (divNearest num den * den : Nat)).natAbs ≤
      den := by
  have hSplit := Nat.div_add_mod num den
  have hRest := Nat.mod_lt num hDen
  rw [Nat.mul_comm] at hSplit
  have hParity := Nat.mod_two_eq_zero_or_one (num / den)
  unfold divNearest
  dsimp only
  split_ifs with hBelow hAbove
  · omega
  · rw [Nat.add_mul]
    omega
  · rcases hParity with hEven | hOdd
    · rw [hEven, Nat.add_zero]
      omega
    · rw [hOdd, Nat.add_mul]
      omega

/- A quotient halfway between two naturals becomes the even one. -/
theorem divNearest_even
    (num : Nat)
    (hDen : 0 < den)
    (hTie :
      2 * ((num : Int) - (divNearest num den * den : Nat)).natAbs =
        den) :
    2 ∣ divNearest num den := by
  have hSplit := Nat.div_add_mod num den
  have hRest := Nat.mod_lt num hDen
  rw [Nat.mul_comm] at hSplit
  have hParity := Nat.mod_two_eq_zero_or_one (num / den)
  unfold divNearest at hTie ⊢
  dsimp only at hTie ⊢
  split_ifs at hTie ⊢ with hBelow hAbove
  · omega
  · rw [Nat.add_mul] at hTie
    omega
  · omega

theorem divNearest_mul
    (n : Nat)
    (hDen : 0 < den) :
    divNearest (n * den) den = n := by
  unfold divNearest
  dsimp only
  rw [Nat.mul_div_cancel n hDen, Nat.mul_mod_left]
  exact if_pos hDen

end Quotients

------------------------------------------------------------
-- Nearest Doubles
------------------------------------------------------------

/- The distance between the whole doubles around a natural. -/
def spacing
    (n : Nat) :
    Nat :=
  2 ^ (n.log2 - 52)

/- The whole double nearest to a natural. -/
def nearestWhole
    (n : Nat) :
    Nat :=
  divNearest n (spacing n) * spacing n

/-
  Whether an integer is the whole double nearest to another one,
  an even multiple of the distance if there are two.
-/
structure IsNearestWhole
    (v w : Int) :
    Prop where
  grid : (spacing v.natAbs : Int) ∣ w
  near : 2 * (v - w).natAbs ≤ spacing v.natAbs
  even :
    2 * (v - w).natAbs = spacing v.natAbs →
      (2 * spacing v.natAbs : Int) ∣ w

theorem spacing_pos
    (n : Nat) :
    0 < spacing n :=
  Nat.two_pow_pos _

/- Up to 53 bits, doubles are no more than one apart. -/
theorem spacing_of_le
    {n : Nat}
    (hBits : n.log2 ≤ 52) :
    spacing n = 1 := by
  rw [spacing, Nat.sub_eq_zero_of_le hBits, Nat.pow_zero]

theorem spacing_dvd_of_le
    {n : Nat}
    (hSmall : n ≤ 2 ^ 53) :
    spacing n ∣ n := by
  rcases Nat.eq_or_lt_of_le hSmall with rfl | hLess
  · rw [spacing, Nat.log2_two_pow]
    decide
  · have hBits : n.log2 ≤ 52 := by
      rcases Nat.eq_zero_or_pos n with rfl | hPositive
      · decide
      · have hLog := (Nat.log2_lt (Nat.pos_iff_ne_zero.mp hPositive)).mpr
          hLess
        omega
    rw [spacing_of_le hBits]
    exact Nat.one_dvd n

/- Only zero becomes zero. -/
theorem nearestWhole_ne_zero
    {n : Nat}
    (hn : n ≠ 0) :
    nearestWhole n ≠ 0 := by
  intro hNone
  have hNear := divNearest_near n (spacing_pos n)
  have hPower : spacing n ≤ 2 ^ n.log2 :=
    Nat.pow_le_pow_right Nat.two_pos (Nat.sub_le _ _)
  have hLeast := Nat.log2_self_le hn
  rw [← nearestWhole, hNone] at hNear
  omega

theorem isNearestWhole_signed
    (v : Int) :
    IsNearestWhole v
      (signed (decide (v < 0)) (nearestWhole v.natAbs)) := by
  have hNear := divNearest_near v.natAbs (spacing_pos v.natAbs)
  have hEven := divNearest_even v.natAbs (spacing_pos v.natAbs)
  have hDistance :
      (v - signed (decide (v < 0)) (nearestWhole v.natAbs)).natAbs =
        ((v.natAbs : Int) - (nearestWhole v.natAbs : Nat)).natAbs := by
    by_cases hNegative : v < 0
    · rw [decide_eq_true hNegative, signed, if_pos rfl]
      omega
    · rw [decide_eq_false hNegative, signed,
        if_neg Bool.false_ne_true]
      omega
  have hDivides :
      ∀ k : Nat, k ∣ nearestWhole v.natAbs →
        (k : Int) ∣
          signed (decide (v < 0)) (nearestWhole v.natAbs) := by
    intro k hMultiple
    have hWhole := Int.natCast_dvd_natCast.mpr hMultiple
    unfold signed
    split_ifs
    · exact (Int.dvd_neg).mpr hWhole
    · exact hWhole
  refine ⟨hDivides _ (Nat.dvd_mul_left _ _), ?_, ?_⟩
  · rw [hDistance]
    exact hNear
  · intro hTie
    rw [hDistance] at hTie
    have hTwice :=
      hDivides _ (Nat.mul_dvd_mul_right (hEven hTie)
        (spacing v.natAbs))
    exact_mod_cast hTwice

/- An integer stays what it is if the distance divides it. -/
theorem IsNearestWhole.eq_iff
    {v w : Int}
    (hNearest : IsNearestWhole v w) :
    w = v ↔ spacing v.natAbs ∣ v.natAbs := by
  constructor
  · rintro rfl
    exact Int.natCast_dvd.mp hNearest.grid
  · intro hDivides
    have hDifference : (spacing v.natAbs : Int) ∣ v - w :=
      Int.dvd_sub (Int.natCast_dvd.mpr hDivides) hNearest.grid
    have hPositive := spacing_pos v.natAbs
    have hNear := hNearest.near
    have hNone := Nat.eq_zero_of_dvd_of_lt
      (Int.natCast_dvd.mp hDifference) (by omega)
    omega

/- The mantissa of an integer denotes the nearest double. -/
theorem scaleUp_mantissa
    {n : Nat} :
    scaleUp
        (divNearest (scaleUp n (52 - n.log2))
          (scaleUp 1 (n.log2 - 52)))
        (n.log2 - 52) =
      nearestWhole n * scaleUp 1 (-((n.log2 : Int) - 52)) := by
  rw [nearestWhole]
  rcases Nat.le_total n.log2 52 with hFew | hMany
  · have hNone : ((n.log2 : Int) - 52).toNat = 0 := by omega
    have hMore :
        (-((n.log2 : Int) - 52)).toNat =
          (52 - (n.log2 : Int)).toNat := by
      omega
    simp only [spacing_of_le hFew, scaleUp_eq, hNone, hMore,
      Nat.pow_zero, Nat.mul_one, Nat.one_mul]
    have hOne : ∀ k, divNearest k 1 = k := fun k => by
      simpa only [Nat.mul_one] using divNearest_mul k Nat.one_pos
    rw [hOne, hOne]
  · have hNone : (52 - (n.log2 : Int)).toNat = 0 := by omega
    have hMore :
        ((n.log2 : Int) - 52).toNat = n.log2 - 52 := by
      omega
    have hOther : (-((n.log2 : Int) - 52)).toNat = 0 := by omega
    simp only [spacing, scaleUp_eq, hNone, hMore, hOther,
      Nat.pow_zero, Nat.mul_one, Nat.one_mul]

/- A full mantissa moves to the next exponent unchanged. -/
theorem scaleUp_carried
    {n : Nat}
    (hn : n ≠ 0)
    (hFull :
      divNearest (scaleUp n (52 - n.log2))
          (scaleUp 1 (n.log2 - 52)) =
        9007199254740992) :
    scaleUp 4503599627370496 ((n.log2 : Int) - 52 + 1) =
      nearestWhole n *
        scaleUp 1 (-((n.log2 : Int) - 52 + 1)) := by
  have hMany : 52 ≤ n.log2 := by
    by_contra hFew
    have hNone : ((n.log2 : Int) - 52).toNat = 0 := by omega
    have hBelow := (mantissa_bounds hn).2
    have hOne := divNearest_mul
      (scaleUp n (52 - n.log2)) Nat.one_pos
    rw [scaleUp_eq 1, hNone, Nat.pow_zero, Nat.mul_one] at hFull hBelow
    rw [Nat.mul_one] at hOne
    omega
  have hValue := scaleUp_mantissa (n := n)
  have hSum :
      ((n.log2 : Int) - 52 + 1).toNat =
        ((n.log2 : Int) - 52).toNat + 1 := by
    omega
  have hOther : (-((n.log2 : Int) - 52)).toNat = 0 := by omega
  have hNext : (-((n.log2 : Int) - 52 + 1)).toNat = 0 := by omega
  rw [hFull, scaleUp_eq, scaleUp_eq, hOther] at hValue
  rw [scaleUp_eq, scaleUp_eq, hSum, hNext, Nat.pow_succ, ← hValue]
  omega

/- An integer in range becomes the nearest double. -/
theorem exists_ofInt?
    {v : Int}
    (hRange : v.natAbs < integerBound) :
    ∃ m e hCanonical,
      ofInt? v =
          some (.finite (decide (v < 0)) m e hCanonical) ∧
        scaleUp m e = nearestWhole v.natAbs * scaleUp 1 (-e) := by
  rcases exists_ofInt?_iff.mpr hRange with ⟨x, hx⟩
  by_cases hZero : v.natAbs = 0
  · obtain rfl := Int.natAbs_eq_zero.mp hZero
    exact ⟨0, -1074, by decide, rfl, by decide +kernel⟩
  · have hRounded := ofRatio_one (s := decide (v < 0)) hZero
    unfold pack at hRounded
    unfold ofInt? ofInt at hx ⊢
    split_ifs at hRounded with hFits hCarried
    · rw [hRounded]
      exact ⟨_, _, hFits, rfl, scaleUp_mantissa⟩
    · rw [hRounded]
      exact ⟨_, _, hCarried.2, rfl,
        scaleUp_carried hZero hCarried.1⟩
    · rw [hRounded] at hx
      cases hx

------------------------------------------------------------
-- Fixed Places
------------------------------------------------------------

/- Zeros behind a point, if any. -/
def zeroPlaces
    (places : Nat) :
    Text :=
  if places = 0 then "" else "." ++ Text.run '0' places

/- Tens behind a positive natural are zeros behind its digits. -/
theorem digits_mul_pow
    {n : Nat}
    (hPositive : 0 < n)
    (k : Nat) :
    Text.digits 10 (n * 10 ^ k) =
      Text.digits 10 n ++ Text.run '0' k := by
  induction k with
  | zero => rw [Nat.pow_zero, Nat.mul_one, Text.run,
      List.replicate_zero, List.append_nil]
  | succ k ih =>
      have hMore : 0 < n * 10 ^ k :=
        Nat.mul_pos hPositive (Nat.pow_pos (by decide))
      have hLast := Nat.toDigits_append_toDigits (b := 10) (d := 0)
        (by decide) hMore (by decide)
      rw [Text.run, List.replicate_succ', ← List.append_assoc,
        ← Text.run, ← ih, Nat.pow_succ, ← Nat.mul_assoc,
        Nat.mul_comm _ 10]
      exact (congrArg (List.map CodePoint.char) hLast).symm.trans
        (List.map_append ..)

theorem paddedDigits_mul_pow
    (n k : Nat) :
    paddedDigits (k + 1) (n * 10 ^ k) =
      Text.digits 10 n ++ Text.run '0' k := by
  rcases Nat.eq_zero_or_pos n with rfl | hPositive
  · have hZero : Text.digits 10 0 = [CodePoint.char '0'] := rfl
    rw [Nat.zero_mul, paddedDigits, hZero]
    dsimp only [List.length_singleton]
    rw [Nat.add_sub_cancel, Text.run, ← List.replicate_succ',
      List.replicate_succ]
    rfl
  · have hLength : 0 < (Text.digits 10 n).length :=
      List.length_pos_iff.mpr (Text.digits_ne_nil n)
    have hNone :
        k + 1 - (Text.digits 10 (n * 10 ^ k)).length = 0 := by
      rw [digits_mul_pow hPositive, List.length_append, Text.run,
        List.length_replicate]
      omega
    rw [paddedDigits, hNone, digits_mul_pow hPositive]
    rfl

theorem fixedDigits_of_whole
    {m n : Nat}
    {e : Int}
    (hWhole : scaleUp m e = n * scaleUp 1 (-e))
    (places : Nat) :
    fixedDigits places m e =
      (Text.digits 10 n, Text.run '0' places) := by
  have hDen : 0 < scaleUp 1 (-e) := scaleUp_pos one_ne_zero _
  have hRounded :
      divNearest (tenfold (scaleUp m e) places)
          (scaleUp 1 (-e)) =
        n * 10 ^ places := by
    have hTens :
        tenfold (scaleUp m e) places =
          n * 10 ^ places * scaleUp 1 (-e) := by
      rw [tenfold, hWhole, Int.toNat_natCast, Nat.mul_right_comm]
      rfl
    rw [hTens, divNearest_mul _ hDen]
  have hWhere :
      (Text.digits 10 n ++ Text.run '0' places).length - places =
        (Text.digits 10 n).length := by
    rw [List.length_append, Text.run, List.length_replicate,
      Nat.add_sub_cancel]
  unfold fixedDigits ratio
  dsimp only
  rw [hRounded, paddedDigits_mul_pow, hWhere, List.take_left,
    List.drop_left]

/- A whole double is printed as its integer and zeros. -/
theorem fixed_of_whole
    {s : Bool}
    {m n : Nat}
    {e : Int}
    {hCanonical : Canonical m e}
    (hWhole : scaleUp m e = n * scaleUp 1 (-e))
    (places : Nat) :
    fixed places (.finite s m e hCanonical) =
      signText s ++ Text.digits 10 n ++ zeroPlaces places := by
  have hZeros :
      Text.run '0' (min places exactPlaces) ++
          Text.run '0' (places - exactPlaces) =
        Text.run '0' places := by
    have hSum :
        min places exactPlaces + (places - exactPlaces) =
          places := by
      omega
    rw [Text.run, Text.run, List.replicate_append_replicate, hSum]
    rfl
  unfold fixed fixedWith zeroPlaces
  dsimp only
  rw [fixedDigits_of_whole hWhole]
  split_ifs with hNone
  · rfl
  · rw [List.append_assoc (Text.ofString "."), hZeros]
    rfl

/- The sign and the digits of an integer are its numeral. -/
theorem numeral_signed
    {v : Int}
    {n : Nat}
    (hSome : v < 0 → n ≠ 0) :
    Text.ofString (toString (signed (decide (v < 0)) n)) =
      signText (decide (v < 0)) ++ Text.digits 10 n := by
  by_cases hNegative : v < 0
  · have hPositive := hSome hNegative
    have hBelow : -(n : Int) < 0 := by omega
    rw [decide_eq_true hNegative, signed, if_pos rfl,
      Text.numeral_eq, if_pos hBelow, Int.natAbs_neg,
      Int.natAbs_natCast]
    rfl
  · rw [decide_eq_false hNegative, signed,
      if_neg Bool.false_ne_true, Text.numeral_eq,
      if_neg (by omega), Int.natAbs_natCast]
    rfl

/-
  An integer in range is printed as the nearest double, with zeros
  for the places.
-/
theorem exists_fixed_ofInt?
    {v : Int}
    (hRange : v.natAbs < integerBound) :
    ∃ x w, ofInt? v = some x ∧ IsNearestWhole v w ∧
      ∀ places, x.fixed places =
        Text.ofString (toString w) ++ zeroPlaces places := by
  rcases exists_ofInt? hRange with ⟨m, e, hCanonical, hRead, hWhole⟩
  have hSome : v < 0 → nearestWhole v.natAbs ≠ 0 := by
    intro hNegative
    exact nearestWhole_ne_zero (by omega)
  refine ⟨_, _, hRead, isNearestWhole_signed v, fun places => ?_⟩
  rw [fixed_of_whole hWhole, numeral_signed hSome]

end Double

end LabelPress

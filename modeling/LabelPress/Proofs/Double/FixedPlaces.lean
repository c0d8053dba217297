import LabelPress.Proofs.Double.WholeNumbers

/-
  Doubles in fixed places.

  A finite double in a number of places is the number of decimal
  parts nearest to its magnitude, the even one of two.  What makes
  up whole ones is written in front of the point, without zeros
  in front, and the rest fills the places behind it.

  Main declarations:
    * `Double.stepsInOne`, `Double.IsNearestParts`
    * `paddedDigits_parts`
    * `Double.exists_fixedWith_abs`
    * `Double.lt_zero_eq_isNegative`
-/

namespace LabelPress

------------------------------------------------------------
-- Digits before and behind a Point
------------------------------------------------------------

section Digits

variable {width places : Nat}

/- The last digit of a number stands behind those of its tenth. -/
theorem paddedDigits_succ
    (hWidth : 0 < width)
    (n : Nat) :
    paddedDigits (width + 1) n =
      paddedDigits width (n / 10) ++ Text.digits 10 (n % 10) := by
  have hLast : n % 10 < 10 := Nat.mod_lt n (by decide)
  have hOne : (Text.digits 10 (n % 10)).length = 1 := by
    rw [Text.digits, Nat.toDigits_of_lt_base hLast]
    rfl
  rcases Nat.eq_zero_or_pos (n / 10) with hNone | hTenth
  -- the zero of a tenth that is none is one more zero in front
  · have hSmall : n % 10 = n := by omega
    have hZero : Text.digits 10 0 = Text.run '0' 1 := rfl
    have hFill : width - 1 + 1 = width := by omega
    rw [hSmall] at hOne
    rw [hNone, hSmall, paddedDigits, paddedDigits, hOne, hZero]
    simp only [Text.run, List.length_replicate,
      List.replicate_append_replicate, hFill, Nat.add_sub_cancel]
  · have hDigits :
        Text.digits 10 n =
          Text.digits 10 (n / 10) ++ Text.digits 10 (n % 10) := by
      have hSplit := Nat.toDigits_append_toDigits (b := 10)
        (by decide) hTenth hLast
      rw [Nat.div_add_mod] at hSplit
      rw [Text.digits, ← hSplit, List.map_append]
      rfl
    rw [paddedDigits, paddedDigits, hDigits, List.length_append,
      hOne, Nat.add_sub_add_right, List.append_assoc]

/- One place is always filled. -/
theorem paddedDigits_one
    (n : Nat) :
    paddedDigits 1 n = Text.digits 10 n := by
  have hSome : 1 ≤ (Text.digits 10 n).length :=
    List.length_pos_iff.mpr (Text.digits_ne_nil n)
  rw [paddedDigits, Nat.sub_eq_zero_of_le hSome]
  rfl

/-
  Digits are cut in front of a number of places.  By induction on
  the places: the last one is split off on both sides.
-/
theorem paddedDigits_parts
    (hPlaces : 0 < places)
    (n : Nat) :
    paddedDigits (places + 1) n =
      Text.digits 10 (n / 10 ^ places) ++
        paddedDigits places (n % 10 ^ places) := by
  induction places, hPlaces using Nat.le_induction generalizing n
  with
  | base =>
      rw [paddedDigits_succ Nat.one_pos, Nat.pow_one,
        paddedDigits_one, paddedDigits_one]
  | succ places hPlaces ih =>
      have hTenth :
          n % 10 ^ (places + 1) / 10 = n / 10 % 10 ^ places := by
        rw [Nat.pow_succ', Nat.mod_mul_right_div_self]
      have hLast : n % 10 ^ (places + 1) % 10 = n % 10 := by
        rw [Nat.pow_succ']
        exact Nat.mod_mul_right_mod n 10 _
      rw [paddedDigits_succ (Nat.succ_pos _), ih,
        paddedDigits_succ hPlaces, hTenth, hLast,
        Nat.div_div_eq_div_mul, ← Nat.pow_succ', List.append_assoc]

end Digits

namespace Double

------------------------------------------------------------
-- Nearest Decimal Parts
------------------------------------------------------------

/- The number of steps from zero to one. -/
def stepsInOne :
    Nat :=
  2 ^ 1074

example : steps 1 = stepsInOne := by decide +kernel

/-
  Whether a natural is the number of decimal parts nearest to the
  magnitude of a double, the even one if there are two.
-/
structure IsNearestParts
    (places : Nat)
    (x : Double)
    (n : Nat) :
    Prop where
  near :
    2 * ((x.steps.natAbs * 10 ^ places : Nat) -
        (n * stepsInOne : Nat) : Int).natAbs ≤
      stepsInOne
  even :
    2 * ((x.steps.natAbs * 10 ^ places : Nat) -
        (n * stepsInOne : Nat) : Int).natAbs =
      stepsInOne → 2 ∣ n

section Magnitudes

variable {m : Nat}
variable {e : Int}

/- Steps are parts of the quotient that a double is read as. -/
theorem exists_steps_ratio
    (m : Nat)
    (hLeast : -1074 ≤ e) :
    ∃ k, 0 < k ∧ scaleUp m (e + 1074) = scaleUp m e * k ∧
      stepsInOne = scaleUp 1 (-e) * k := by
  have hHere :
      (e + 1074).toNat = e.toNat + (min e 0 + 1074).toNat := by
    omega
  have hOne :
      1074 = (-e).toNat + (min e 0 + 1074).toNat := by
    omega
  refine ⟨2 ^ (min e 0 + 1074).toNat, Nat.two_pow_pos _, ?_, ?_⟩
  · rw [scaleUp_eq, scaleUp_eq, hHere, Nat.pow_add, Nat.mul_assoc]
  · rw [scaleUp_eq, Nat.one_mul, ← Nat.pow_add, ← hOne, stepsInOne]

/- Twice a distance grows with both its ends. -/
theorem distance_mul
    (a b k : Nat) :
    2 * ((a * k : Nat) - (b * k : Nat) : Int).natAbs =
      2 * ((a : Int) - b).natAbs * k := by
  rw [Nat.cast_mul, Nat.cast_mul, ← Int.sub_mul, Int.natAbs_mul,
    Int.natAbs_natCast, Nat.mul_assoc]

/- Rounding a quotient finds the nearest decimal parts. -/
theorem isNearestParts_finite
    (s : Bool)
    (hCanonical : Canonical m e)
    (places : Nat) :
    IsNearestParts places (.finite s m e hCanonical)
      (divNearest (tenfold (scaleUp m e) places)
        (scaleUp 1 (-e))) := by
  have hDen : 0 < scaleUp 1 (-e) := scaleUp_pos one_ne_zero _
  have hNear := divNearest_near
    (tenfold (scaleUp m e) places) hDen
  have hEven := divNearest_even
    (tenfold (scaleUp m e) places) hDen
  generalize divNearest (tenfold (scaleUp m e) places)
    (scaleUp 1 (-e)) = n at hNear hEven ⊢
  rcases exists_steps_ratio m hCanonical.2.1 with
    ⟨k, hk, hSteps, hOne⟩
  have hMagnitude :
      (steps (.finite s m e hCanonical)).natAbs =
        scaleUp m e * k := by
    rw [steps, natAbs_signed, hSteps]
  -- steps make numerator and denominator k times as large
  have hDistance :
      2 * (((scaleUp m e * k) * 10 ^ places : Nat) -
          (n * stepsInOne : Nat) : Int).natAbs =
        2 * ((tenfold (scaleUp m e) places : Nat) -
          (n * scaleUp 1 (-e) : Nat) : Int).natAbs * k := by
    rw [hOne, tenfold, Int.toNat_natCast, Nat.mul_right_comm,
      ← Nat.mul_assoc n]
    exact distance_mul _ _ k
  refine ⟨?_, fun hTie => hEven ?_⟩
  · rw [hMagnitude, hDistance, hOne]
    exact Nat.mul_le_mul_right k hNear
  · rw [hMagnitude, hDistance, hOne] at hTie
    exact Nat.eq_of_mul_eq_mul_right hk hTie

end Magnitudes

------------------------------------------------------------
-- Fixed Places
------------------------------------------------------------

variable {x : Double}

/- The sign stands in front of what the magnitude is printed as. -/
theorem fixedWith_eq_abs
    (hFinite : x.isFinite = true)
    (group : Text → Text)
    (places : Nat) :
    fixedWith group places x =
      signText x.isNegative ++ fixedWith group places x.abs := by
  cases x with
  | nan => cases hFinite
  | infinite s => cases hFinite
  | finite s m e hCanonical =>
      simp only [fixedWith, isNegative, abs, List.append_assoc]
      rfl

/-
  The magnitude of a finite double is printed as its nearest
  decimal parts, whole ones in front of the point.
-/
theorem exists_fixedWith_abs
    (hFinite : x.isFinite = true)
    (places : Nat)
    (hSome : 0 < places)
    (hMost : places ≤ exactPlaces) :
    ∃ n, IsNearestParts places x n ∧
      ∀ group : Text → Text, fixedWith group places x.abs =
        group (Text.digits 10 (n / 10 ^ places)) ++ "." ++
          paddedDigits places (n % 10 ^ places) := by
  cases x with
  | nan => cases hFinite
  | infinite s => cases hFinite
  | finite s m e hCanonical =>
      refine ⟨_, isNearestParts_finite s hCanonical places,
        fun group => ?_⟩
      have hLength :
          ∀ n, (paddedDigits places (n % 10 ^ places)).length =
            places :=
        fun n => Text.length_paddedDigits hSome
          (Nat.mod_lt n (Nat.pow_pos (by decide)))
      have hWhere :
          ∀ n, (Text.digits 10 (n / 10 ^ places) ++
              paddedDigits places (n % 10 ^ places)).length -
                places =
            (Text.digits 10 (n / 10 ^ places)).length := by
        intro n
        rw [List.length_append, hLength, Nat.add_sub_cancel]
      have hNone : places - exactPlaces = 0 := by omega
      have hPart : places ≠ 0 := by omega
      simp only [abs, fixedWith, fixedDigits, ratio,
        Nat.min_eq_left hMost, paddedDigits_parts hSome, hWhere,
        List.take_left, List.drop_left, hNone, if_neg hPart]
      simp [signText, Text.run, Text.ofString]

/-
  Every finite double but the negative zero is below zero exactly
  if it carries a minus sign.
-/
theorem lt_zero_eq_isNegative
    (hFinite : x.isFinite = true)
    (hSigned : x ≠ zero true) :
    lt x 0 = x.isNegative := by
  cases x with
  | nan => cases hFinite
  | infinite s => cases hFinite
  | finite s m e hCanonical =>
      have hZero : steps 0 = 0 := by decide +kernel
      rw [Bool.eq_iff_iff, lt_iff_steps rfl rfl, hZero, isNegative,
        steps]
      cases s with
      | false =>
          refine iff_of_false ?_ Bool.false_ne_true
          exact Int.not_lt.mpr (Int.natCast_nonneg _)
      | true =>
          have hMantissa : m ≠ 0 := by
            rintro rfl
            rcases hCanonical.2.2.2 with hLarge | rfl
            · cases Nat.not_succ_le_zero _ hLarge
            · exact absurd rfl hSigned
          have hSteps := scaleUp_pos hMantissa (e + 1074)
          refine iff_of_true ?_ rfl
          exact Int.neg_neg_of_pos (Int.natCast_pos.mpr hSteps)

end Double

end LabelPress

import LabelPress.Proofs.Double.FixedPlaces

/-
  Sums of doubles.

  The exact sum of two finite doubles is a whole number of steps,
  and what they add up to is the nearest one of the numbers of
  steps that some double has.  A sum that some double has is
  exact.

  Main declarations:
    * `Double.nearestWhole_of_dvd`, `Double.spacing_dvd_mul`
    * `Double.exists_ofScaled`
    * `Double.steps_add`
-/

namespace LabelPress

namespace Double

------------------------------------------------------------
-- Powers of Two
------------------------------------------------------------

theorem log2_mul_two_pow
    {n : Nat}
    (hn : n ≠ 0)
    (k : Nat) :
    (n * 2 ^ k).log2 = n.log2 + k := by
  have hPower := Nat.two_pow_pos k
  rw [Nat.log2_eq_iff (Nat.mul_ne_zero hn hPower.ne')]
  constructor
  · rw [Nat.pow_add]
    exact Nat.mul_le_mul_right _ (Nat.log2_self_le hn)
  · rw [Nat.add_right_comm, Nat.pow_add]
    exact Nat.mul_lt_mul_of_pos_right Nat.lt_log2_self hPower

/- A number of 53 bits, scaled up, is one that doubles have. -/
theorem spacing_dvd_mul
    {n : Nat}
    (hBits : n ≤ 2 ^ 53)
    (k : Nat) :
    spacing (n * 2 ^ k) ∣ n * 2 ^ k := by
  rcases Nat.eq_zero_or_pos n with rfl | hPositive
  · rw [Nat.zero_mul]
    exact Nat.dvd_zero _
  · rw [spacing, log2_mul_two_pow hPositive.ne']
    rcases Nat.le_total n.log2 52 with hFew | hMany
    · exact Nat.dvd_mul_left_of_dvd
        (Nat.pow_dvd_pow 2 (by omega)) n
    · rw [Nat.sub_add_comm hMany, Nat.pow_add]
      exact Nat.mul_dvd_mul_right (spacing_dvd_of_le hBits) _

/- What doubles have is nearest to itself. -/
theorem nearestWhole_of_dvd
    {n : Nat}
    (hDivides : spacing n ∣ n) :
    nearestWhole n = n := by
  have hQuotient :=
    divNearest_mul (n / spacing n) (spacing_pos n)
  rw [Nat.div_mul_cancel hDivides] at hQuotient
  rw [nearestWhole, hQuotient, Nat.div_mul_cancel hDivides]

theorem divNearest_mul_right
    (num den : Nat)
    {k : Nat}
    (hk : 0 < k) :
    divNearest (num * k) (den * k) = divNearest num den := by
  unfold divNearest
  dsimp only
  rw [Nat.mul_div_mul_right _ _ hk, Nat.mul_mod_mul_right,
    ← Nat.mul_assoc]
  simp only [Nat.mul_lt_mul_right hk]

/- A quotient of powers of two is known from their difference. -/
theorem divNearest_two_pow
    (n : Nat)
    {p q p' q' : Nat}
    (hSame : p + q' = p' + q) :
    divNearest (n * 2 ^ p) (2 ^ q) =
      divNearest (n * 2 ^ p') (2 ^ q') := by
  have hMore :
      ∀ a b k, divNearest (n * 2 ^ (a + k)) (2 ^ (b + k)) =
        divNearest (n * 2 ^ a) (2 ^ b) := by
    intro a b k
    rw [Nat.pow_add, Nat.pow_add, ← Nat.mul_assoc]
    exact divNearest_mul_right _ _ (Nat.two_pow_pos k)
  rw [← hMore p q p', ← hMore p' q' p, Nat.add_comm p p',
    Nat.add_comm q p', Nat.add_comm q' p, hSame]

------------------------------------------------------------
-- Scaled Naturals
------------------------------------------------------------

section Scaled

variable {s : Bool}
variable {n : Nat}
variable {low : Int}

/- The exponent of a scaled natural, by its number of bits. -/
theorem exponentOf_scaled
    (hn : n ≠ 0)
    (low : Int) :
    exponentOf (scaleUp n low) (scaleUp 1 (-low)) =
      n.log2 + low - 52 := by
  have hNum : (scaleUp n low).log2 = n.log2 + low.toNat := by
    rw [scaleUp_eq, log2_mul_two_pow hn]
  have hDen : (scaleUp 1 (-low)).log2 = (-low).toNat := by
    rw [scaleUp_eq, Nat.one_mul, Nat.log2_two_pow]
  have hExponent :
      ((scaleUp n low).log2 : Int) - (scaleUp 1 (-low)).log2 - 52 =
        n.log2 + low - 52 := by
    omega
  -- the natural is at least the power of two of its bits
  have hEnough :
      ¬ scaleUp (scaleUp n low) (-(n.log2 + low - 52 + 52)) <
        scaleUp (scaleUp 1 (-low)) (n.log2 + low - 52 + 52) := by
    have hBits :
        (-low).toNat + (n.log2 + low - 52 + 52).toNat =
          n.log2 + (low.toNat +
            (-(n.log2 + low - 52 + 52)).toNat) := by
      omega
    have hLeast := Nat.mul_le_mul_right
      (2 ^ (low.toNat + (-(n.log2 + low - 52 + 52)).toNat))
      (Nat.log2_self_le hn)
    rw [← Nat.pow_add, ← hBits, Nat.pow_add,
      Nat.pow_add _ low.toNat, ← Nat.mul_assoc] at hLeast
    simpa only [scaleUp_eq, Nat.one_mul, Nat.not_lt] using hLeast
  unfold exponentOf
  dsimp only
  rw [hExponent, if_neg hEnough]

/- A mantissa that is rounded to 53 bits fits, or is carried. -/
theorem exists_pack
    {m : Nat}
    {e : Int}
    (hLeast : -1074 ≤ e)
    (hMost : m ≤ 2 ^ 53)
    (hForm : 2 ^ 52 ≤ m ∨ e = -1074)
    (hRange : scaleUp m (e + 1074) < infiniteSteps) :
    ∃ m' e' hCanonical,
      pack s m e = .finite s m' e' hCanonical ∧
        scaleUp m' (e' + 1074) = scaleUp m (e + 1074) := by
  have hTop : e ≤ 971 := by
    by_contra hAbove
    obtain ⟨k, hk⟩ : ∃ k, (971 + 1074 : Int).toNat = k :=
      ⟨_, rfl⟩
    have hPower : 2 ^ (k + 1) ≤ 2 ^ (e + 1074).toNat :=
      Nat.pow_le_pow_right Nat.two_pos (by omega)
    have hLarge : 2 ^ 52 ≤ m := by omega
    have hBoth := Nat.mul_le_mul hLarge hPower
    rw [infiniteSteps, scaleUp_eq, scaleUp_eq, hk] at hRange
    rw [Nat.pow_succ] at hBoth
    omega
  rcases Nat.lt_or_eq_of_le hMost with hLess | hFull
  · have hFits : Canonical m e := by
      refine ⟨hLess, hLeast, hTop, ?_⟩
      omega
    exact ⟨m, e, hFits, dif_pos hFits, rfl⟩
  · have hLower : e + 1 ≤ 971 := by
      by_contra hAbove
      obtain rfl : e = 971 := by omega
      rw [hFull] at hRange
      exact Nat.lt_irrefl _ hRange
    have hNot : ¬ Canonical m e := by
      rintro ⟨hLess, _⟩
      omega
    have hCarried :
        m = 9007199254740992 ∧
          Canonical 4503599627370496 (e + 1) :=
      ⟨hFull, by decide, by omega, hLower, .inl (Nat.le_refl _)⟩
    refine ⟨_, _, hCarried.2, ?_, ?_⟩
    · rw [pack, dif_neg hNot, dif_pos hCarried]
    · have hExponent :
          (e + 1 + 1074).toNat = (e + 1074).toNat + 1 := by
        omega
      rw [scaleUp_eq, scaleUp_eq, hExponent, Nat.pow_succ, hFull]
      omega

/- A natural has at most 53 bits in terms of its spacing. -/
theorem divNearest_spacing_le
    (n : Nat) :
    divNearest n (spacing n) ≤ 2 ^ 53 := by
  have hBits :
      2 ^ (n.log2 + 1) ≤ 2 ^ 53 * spacing n := by
    rw [spacing, ← Nat.pow_add]
    exact Nat.pow_le_pow_right Nat.two_pos (by omega)
  have hQuotient : n / spacing n < 2 ^ 53 :=
    (Nat.div_lt_iff_lt_mul (spacing_pos n)).mpr
      (Nat.lt_of_lt_of_le Nat.lt_log2_self hBits)
  rcases divNearest_cases n (spacing n) with h | h
  · omega
  · omega

/- It has all of them unless its spacing is one. -/
theorem le_divNearest_spacing
    {n : Nat}
    (hMany : 52 ≤ n.log2) :
    2 ^ 52 ≤ divNearest n (spacing n) := by
  have hn : n ≠ 0 := by
    rintro rfl
    exact absurd hMany (by decide)
  have hBits : 2 ^ 52 * spacing n ≤ n := by
    rw [spacing, ← Nat.pow_add, Nat.add_sub_cancel' hMany]
    exact Nat.log2_self_le hn
  have hQuotient : 2 ^ 52 ≤ n / spacing n :=
    (Nat.le_div_iff_mul_le (spacing_pos n)).mpr hBits
  rcases divNearest_cases n (spacing n) with h | h
  · omega
  · omega

/-
  A natural scaled by a power of two becomes the nearest of the
  doubles, unless it is beyond them.
-/
theorem exists_ofScaled
    (hn : n ≠ 0)
    (hLeast : -1074 ≤ low)
    (hRange :
      nearestWhole (scaleUp n (low + 1074)) < infiniteSteps) :
    ∃ m e hCanonical,
      ofScaled s n low = .finite s m e hCanonical ∧
        scaleUp m (e + 1074) =
          nearestWhole (scaleUp n (low + 1074)) := by
  have hNum : scaleUp n low ≠ 0 := (scaleUp_pos hn low).ne'
  have hLog :
      (scaleUp n (low + 1074)).log2 =
        n.log2 + (low + 1074).toNat := by
    rw [scaleUp_eq, log2_mul_two_pow hn]
  obtain ⟨e, he⟩ :
      ∃ e, max (-1074) ((n.log2 : Int) + low - 52) = e :=
    ⟨_, rfl⟩
  have hSpacing :
      spacing (scaleUp n (low + 1074)) =
        2 ^ (e + 1074).toNat := by
    rw [spacing, hLog]
    congr 1
    omega
  have hMantissa :
      divNearest (scaleUp (scaleUp n low) (-e))
          (scaleUp (scaleUp 1 (-low)) e) =
        divNearest (scaleUp n (low + 1074))
          (spacing (scaleUp n (low + 1074))) := by
    rw [hSpacing]
    simp only [scaleUp_eq, Nat.one_mul, Nat.mul_assoc,
      ← Nat.pow_add]
    apply divNearest_two_pow
    omega
  have hMost := divNearest_spacing_le (scaleUp n (low + 1074))
  have hForm :
      2 ^ 52 ≤ divNearest (scaleUp n (low + 1074))
        (spacing (scaleUp n (low + 1074))) ∨ e = -1074 := by
    rcases Nat.lt_or_ge (scaleUp n (low + 1074)).log2 52 with
      hFew | hMany
    · exact .inr (by omega)
    · exact .inl (le_divNearest_spacing hMany)
  have hValue :
      scaleUp (divNearest (scaleUp n (low + 1074))
          (spacing (scaleUp n (low + 1074)))) (e + 1074) =
        nearestWhole (scaleUp n (low + 1074)) := by
    rw [nearestWhole, hSpacing, scaleUp_eq]
  rw [← hValue] at hRange ⊢
  rcases exists_pack (s := s) (by omega) hMost hForm hRange with
    ⟨m', e', hCanonical, hPacked, hSame⟩
  refine ⟨m', e', hCanonical, ?_, hSame⟩
  rw [ofScaled, ofRatio, if_neg hNum]
  dsimp only
  rw [exponentOf_scaled hn, he, hMantissa, hPacked]

end Scaled

/- Rounding makes a natural at most twice as large. -/
theorem nearestWhole_le
    (n : Nat) :
    nearestWhole n ≤ 2 * n := by
  rcases Nat.eq_zero_or_pos n with rfl | hPositive
  · decide
  · have hNear := divNearest_near n (spacing_pos n)
    have hPower : spacing n ≤ 2 ^ n.log2 :=
      Nat.pow_le_pow_right Nat.two_pos (Nat.sub_le _ _)
    have hLeast := Nat.log2_self_le hPositive.ne'
    rw [← nearestWhole] at hNear
    omega

/- A part of an integer in range is in range. -/
theorem exists_ofQuotient?
    {n : Int}
    (hRange : n.natAbs < integerBound)
    {k : Nat}
    (hFew : 0 < k)
    (hMost : k ≤ 1074) :
    ∃ x, ofQuotient? n (2 ^ k) = some x := by
  rw [ofQuotient?]
  by_cases hZero : n.natAbs = 0
  · rw [hZero, ofRatio, if_pos rfl]
    exact ⟨_, rfl⟩
  · have hScaled :
        ofRatio (decide (n < 0)) n.natAbs (2 ^ k) =
          ofScaled (decide (n < 0)) n.natAbs (-k) := by
      have hNone : (-(k : Int)).toNat = 0 := by omega
      rw [ofScaled, scaleUp_eq, scaleUp_eq, Int.neg_neg,
        Int.toNat_natCast, hNone, Nat.pow_zero, Nat.mul_one,
        Nat.one_mul]
    have hSteps :
        nearestWhole (scaleUp n.natAbs (-k + 1074)) <
          infiniteSteps := by
      refine Nat.lt_of_le_of_lt (nearestWhole_le _) ?_
      rw [integerBound, scaleUp_eq] at hRange
      rw [infiniteSteps, scaleUp_eq, scaleUp_eq]
      have hPower :
          2 ^ (970 : Int).toNat * 2 ^ (-k + 1074 : Int).toNat * 4 ≤
            2 ^ (971 + 1074 : Int).toNat := by
        have hFour : 4 = 2 ^ 2 := rfl
        rw [hFour, ← Nat.pow_add, ← Nat.pow_add]
        exact Nat.pow_le_pow_right Nat.two_pos (by omega)
      have hBelow := Nat.mul_lt_mul_of_pos_right hRange
        (Nat.two_pow_pos (-k + 1074 : Int).toNat)
      rw [Nat.mul_assoc] at hBelow
      omega
    rcases exists_ofScaled (s := decide (n < 0)) hZero (by omega)
        hSteps with ⟨m, e, hCanonical, hValue, _⟩
    rw [hScaled, hValue]
    exact ⟨_, rfl⟩

------------------------------------------------------------
-- Sums
------------------------------------------------------------

variable {x y : Double}

theorem steps_zero
    (s : Bool) :
    (zero s).steps = 0 := by
  have hNone : scaleUp 0 (-1074 + 1074) = 0 :=
    Nat.zero_shiftLeft _
  rw [zero, steps, hNone]
  cases s with
  | false => rfl
  | true => rfl

/- The steps of a sum, before they are rounded. -/
theorem steps_add_steps
    {s t : Bool}
    {m n : Nat}
    {e f : Int}
    (hm : Canonical m e)
    (hn : Canonical n f) :
    steps (.finite s m e hm) + steps (.finite t n f hn) =
      (signed s (scaleUp m (e - min e f)) +
          signed t (scaleUp n (f - min e f))) *
        (2 ^ (min e f + 1074).toNat : Nat) := by
  have hLeast : -1074 ≤ min e f := le_min hm.2.1 hn.2.1
  rw [steps, steps, scaleUp_steps m (min_le_left e f) hLeast,
    scaleUp_steps n (min_le_right e f) hLeast, signed_mul,
    signed_mul, Int.add_mul]

/-
  A sum of finite doubles is the one nearest to the sum of their
  steps, unless that is beyond them.
-/
theorem steps_add
    (hx : x.isFinite = true)
    (hy : y.isFinite = true)
    (hRange :
      nearestWhole (x.steps + y.steps).natAbs < infiniteSteps) :
    (x + y).isFinite = true ∧
      (x + y).steps =
        signed (decide (x.steps + y.steps < 0))
          (nearestWhole (x.steps + y.steps).natAbs) := by
  cases x with
  | nan => cases hx
  | infinite s => cases hx
  | finite s m e hm =>
  cases y with
  | nan => cases hy
  | infinite t => cases hy
  | finite t n f hn =>
  have hSum := steps_add_steps (s := s) (t := t) hm hn
  have hPower := Nat.two_pow_pos (min e f + 1074).toNat
  change (add _ _).isFinite = true ∧ (add _ _).steps = _
  unfold add
  dsimp only
  generalize signed s (scaleUp m (e - min e f)) +
    signed t (scaleUp n (f - min e f)) = total at hSum ⊢
  split_ifs with hZero
  · refine ⟨rfl, ?_⟩
    rw [steps_zero, hSum, hZero, Int.zero_mul]
    rfl
  · have hSteps :
        scaleUp total.natAbs (min e f + 1074) =
          (steps (.finite s m e hm) +
            steps (.finite t n f hn)).natAbs := by
      rw [hSum, Int.natAbs_mul, Int.natAbs_natCast, scaleUp_eq]
    have hSign :
        decide (steps (.finite s m e hm) +
            steps (.finite t n f hn) < 0) =
          decide (total < 0) := by
      have hOrder := Int.mul_lt_mul_right (b := total) (c := 0)
        (Int.natCast_pos.mpr hPower)
      rw [Int.zero_mul] at hOrder
      rw [hSum, decide_eq_decide, hOrder]
    rw [← hSteps] at hRange ⊢
    rw [hSign]
    rcases exists_ofScaled (s := decide (total < 0))
        (Int.natAbs_ne_zero.mpr hZero)
        (le_min hm.2.1 hn.2.1) hRange with
      ⟨m', e', hCanonical, hValue, hRounded⟩
    rw [hValue, steps, hRounded]
    exact ⟨rfl, rfl⟩

end Double

end LabelPress

import LabelPress.Proofs.Double.Sums

/-
  Integers and rounding to them.

  Sums of small integers are exact, and so is rounding an integer.
  Rounding adds one half before it drops the fraction, and that
  sum is rounded too: an odd integer of 53 bits becomes the next
  one.  What rounding comes to is never of this kind, so that
  rounding it again changes nothing.

  Main declarations:
    * `Double.IsInteger`, with its sums
    * `Double.halfAway_eq`
    * `Double.IsSettled`, `Double.IsInteger.halfAway`
    * `Double.isSettled_halfAway`, `Double.exists_halfAway_ofInt?`
-/

namespace LabelPress

namespace Double

variable {x y : Double}
variable {a b : Int}

------------------------------------------------------------
-- Integers among Doubles
------------------------------------------------------------

theorem stepsInOne_pos :
    0 < stepsInOne :=
  pow_pos two_pos 1074

/- Whether a double is exactly an integer. -/
structure IsInteger
    (x : Double)
    (a : Int) :
    Prop where
  finite : x.isFinite = true
  steps : x.steps = a * stepsInOne

instance
    (x : Double)
    (a : Int) :
    Decidable (x.IsInteger a) :=
  decidable_of_iff (x.isFinite = true ∧ x.steps = a * stepsInOne)
    ⟨fun ⟨hFinite, hSteps⟩ => ⟨hFinite, hSteps⟩,
      fun hx => ⟨hx.finite, hx.steps⟩⟩

theorem signed_not
    (s : Bool)
    (n : Nat) :
    signed (!s) n = -signed s n := by
  cases s with
  | false => rfl
  | true => exact (Int.neg_neg _).symm

theorem steps_neg
    (x : Double) :
    (-x).steps = -x.steps := by
  change (neg x).steps = _
  cases x with
  | nan => rfl
  | infinite s => exact signed_not s _
  | finite s m e hCanonical => exact signed_not s _

theorem isFinite_neg
    (x : Double) :
    (-x).isFinite = x.isFinite := by
  change (neg x).isFinite = _
  cases x with
  | _ => rfl

/- Integers of 53 bits are doubles, and within their range. -/
theorem nearestWhole_steps
    (hBits : a.natAbs ≤ 2 ^ 53) :
    nearestWhole (a * stepsInOne).natAbs =
        (a * stepsInOne).natAbs ∧
      (a * stepsInOne).natAbs < infiniteSteps := by
  rw [Int.natAbs_mul, Int.natAbs_natCast]
  refine ⟨nearestWhole_of_dvd (spacing_dvd_mul hBits 1074), ?_⟩
  have hPower : stepsInOne < 2 ^ (971 + 1074 : Int).toNat := by
    rw [stepsInOne, Nat.pow_lt_pow_iff_right Nat.one_lt_two]
    omega
  rw [infiniteSteps, scaleUp_eq]
  exact Nat.mul_lt_mul_of_le_of_lt hBits hPower (by decide)

theorem signed_natAbs
    (a : Int) :
    signed (decide (a < 0)) a.natAbs = a := by
  by_cases hNegative : a < 0
  · rw [decide_eq_true hNegative, signed, if_pos rfl]
    omega
  · rw [decide_eq_false hNegative, signed,
      if_neg Bool.false_ne_true]
    omega

/- Sums of integers are exact up to 53 bits. -/
theorem IsInteger.add
    (hx : x.IsInteger a)
    (hy : y.IsInteger b)
    (hBits : (a + b).natAbs ≤ 2 ^ 53) :
    (x + y).IsInteger (a + b) := by
  have hSum : x.steps + y.steps = (a + b) * stepsInOne := by
    rw [hx.steps, hy.steps, Int.add_mul]
  rcases nearestWhole_steps hBits with ⟨hExact, hBelow⟩
  have hRange :
      nearestWhole (x.steps + y.steps).natAbs < infiniteSteps := by
    rw [hSum, hExact]
    exact hBelow
  rcases steps_add hx.finite hy.finite hRange with
    ⟨hFinite, hSteps⟩
  refine ⟨hFinite, ?_⟩
  rw [hSteps, hSum, hExact, signed_natAbs]

theorem IsInteger.neg
    (hx : x.IsInteger a) :
    (-x).IsInteger (-a) :=
  ⟨(isFinite_neg x).trans hx.finite, by
    rw [steps_neg, hx.steps, Int.neg_mul]⟩

theorem IsInteger.sub
    (hx : x.IsInteger a)
    (hy : y.IsInteger b)
    (hBits : (a - b).natAbs ≤ 2 ^ 53) :
    (x - y).IsInteger (a - b) :=
  hx.add hy.neg hBits

theorem IsInteger.isNaN_eq
    (hx : x.IsInteger a) :
    x.isNaN = false := by
  cases x with
  | nan => cases hx.finite
  | _ => rfl

theorem IsInteger.zero_lt_iff
    (hx : x.IsInteger a) :
    lt 0 x = true ↔ 0 < a := by
  have hZero : Double.steps 0 = 0 := steps_zero false
  rw [lt_iff_steps rfl hx.isNaN_eq, hZero, hx.steps]
  exact mul_pos_iff_of_pos_right
    (Int.natCast_pos.mpr stepsInOne_pos)

theorem IsInteger.zero_le_iff
    (hx : x.IsInteger a) :
    le 0 x = true ↔ 0 ≤ a := by
  have hZero : Double.steps 0 = 0 := steps_zero false
  rw [le_iff_steps rfl hx.isNaN_eq, hZero, hx.steps]
  exact mul_nonneg_iff_of_pos_right
    (Int.natCast_pos.mpr stepsInOne_pos)

theorem two_eq :
    (2 : Double) =
      .finite false 4503599627370496 (-51) (by decide) := by
  decide +kernel

/- An integer that is not zero has no low exponent. -/
theorem exponent_of_isInteger
    {s : Bool}
    {m : Nat}
    {e : Int}
    {hCanonical : Canonical m e}
    (hInteger : (Double.finite s m e hCanonical).IsInteger a)
    (ha : a ≠ 0) :
    -53 < e := by
  have hSize := congrArg Int.natAbs hInteger.steps
  rw [Double.steps, natAbs_signed, Int.natAbs_mul,
    Int.natAbs_natCast, scaleUp_eq] at hSize
  have hLeast : stepsInOne ≤ a.natAbs * stepsInOne :=
    Nat.le_mul_of_pos_left _ (Int.natAbs_pos.mpr ha)
  have hMost :
      m * 2 ^ (e + 1074).toNat < 2 ^ 53 * 2 ^ (e + 1074).toNat :=
    Nat.mul_lt_mul_of_pos_right hCanonical.1 (Nat.two_pow_pos _)
  rw [← hSize, stepsInOne] at hLeast
  rw [← Nat.pow_add] at hMost
  have hPower := (Nat.pow_lt_pow_iff_right Nat.one_lt_two).mp
    (Nat.lt_of_le_of_lt hLeast hMost)
  have hLow := hCanonical.2.1
  omega

/- Doubling an integer is exact as well. -/
theorem IsInteger.double
    (hx : x.IsInteger a)
    (hBits : (2 * a).natAbs ≤ 2 ^ 53) :
    (2 * x).IsInteger (2 * a) := by
  cases x with
  | nan => cases hx.finite
  | infinite s => cases hx.finite
  | finite s m e hCanonical =>
  have hSize := congrArg Int.natAbs hx.steps
  rw [Double.steps, natAbs_signed, scaleUp_eq] at hSize
  have hProduct :
      2 * Double.finite s m e hCanonical =
        ofScaled s (4503599627370496 * m) (-51 + e) := by
    rw [two_eq]
    change ofScaled (false ^^ s) _ _ = _
    rw [Bool.false_xor]
  rw [hProduct]
  by_cases ha : a = 0
  · have hm : m = 0 := by
      rw [ha, Int.zero_mul] at hSize
      exact (Nat.mul_eq_zero.mp hSize).resolve_right
        (Nat.two_pow_pos _).ne'
    have hNone : scaleUp 0 (-51 + e) = 0 :=
      Nat.zero_shiftLeft _
    rw [hm, ha, Nat.mul_zero, ofScaled, hNone, ofRatio, if_pos rfl]
    refine ⟨rfl, ?_⟩
    rw [steps_zero, Int.mul_zero, Int.zero_mul]
  · have hExponent := exponent_of_isInteger hx ha
    have hm : m ≠ 0 := by
      rintro rfl
      rw [Nat.zero_mul] at hSize
      exact absurd (Int.natAbs_eq_zero.mp hSize.symm)
        (Int.mul_ne_zero ha
          (Int.natCast_ne_zero.mpr stepsInOne_pos.ne'))
    have hSteps :
        scaleUp (4503599627370496 * m) (-51 + e + 1074) =
          (2 * a * stepsInOne).natAbs := by
      have hPower :
          4503599627370496 * 2 ^ (-51 + e + 1074).toNat =
            2 * 2 ^ (e + 1074).toNat := by
        have hSum :
            52 + (-51 + e + 1074).toNat = 1 + (e + 1074).toNat := by
          omega
        change 2 ^ 52 * _ = 2 ^ 1 * _
        rw [← Nat.pow_add, ← Nat.pow_add, hSum]
      rw [scaleUp_eq, Nat.mul_right_comm, hPower,
        Nat.mul_right_comm, Nat.mul_assoc, hSize, Int.mul_assoc,
        Int.natAbs_mul 2]
      rfl
    rcases nearestWhole_steps hBits with ⟨hExact, hBelow⟩
    have hRange :
        nearestWhole
            (scaleUp (4503599627370496 * m) (-51 + e + 1074)) <
          infiniteSteps := by
      rw [hSteps, hExact]
      exact hBelow
    rcases exists_ofScaled (s := s)
        (Nat.mul_ne_zero (by decide) hm) (by omega) hRange with
      ⟨m', e', hForm, hValue, hRounded⟩
    rw [hValue]
    refine ⟨rfl, ?_⟩
    rw [Double.steps, hRounded, hSteps, hExact, Int.mul_assoc,
      Int.natAbs_mul, Nat.mul_comm, signed_mul, ← hSize,
      ← scaleUp_eq]
    change (Double.finite s m e hCanonical).steps * _ = _
    rw [hx.steps, Int.mul_comm]
    rfl

/- An integer that doubles have is read as itself. -/
theorem isInteger_of_ofInt?
    (hRead : ofInt? a = some x)
    (hDivides : spacing a.natAbs ∣ a.natAbs) :
    x.IsInteger a := by
  have hRange := exists_ofInt?_iff.mp ⟨x, hRead⟩
  rcases exists_ofInt? hRange with
    ⟨m, e, hCanonical, hValue, hWhole⟩
  obtain rfl := Option.some.inj (hRead.symm.trans hValue)
  refine ⟨rfl, ?_⟩
  rcases exists_steps_ratio m hCanonical.2.1 with
    ⟨k, _, hSteps, hOne⟩
  rw [Double.steps, hSteps, hWhole,
    nearestWhole_of_dvd hDivides, Nat.mul_assoc, ← hOne,
    signed_mul, signed_natAbs]

------------------------------------------------------------
-- Rounding Half Away
------------------------------------------------------------

/- The number of steps from zero to one half. -/
def stepsInHalf :
    Nat :=
  2 ^ 1073

theorem stepsInHalf_pos :
    0 < stepsInHalf :=
  pow_pos two_pos 1073

theorem stepsInOne_eq :
    stepsInOne = 2 * stepsInHalf := by
  have hNext : (1074 : Nat) = 1073 + 1 := rfl
  rw [stepsInOne, stepsInHalf, hNext, pow_succ']

theorem steps_half :
    half.isFinite = true ∧ half.steps = stepsInHalf := by
  decide +kernel

theorem isFinite_abs
    (x : Double) :
    x.abs.isFinite = x.isFinite := by
  cases x with
  | _ => rfl

theorem steps_abs
    (hFinite : x.isFinite = true) :
    x.abs.steps = x.steps.natAbs := by
  cases x with
  | nan => cases hFinite
  | infinite s => cases hFinite
  | finite s m e hCanonical =>
      rw [abs, steps, steps, natAbs_signed]
      rfl

/- What dropping the fraction leaves, counted in steps. -/
theorem truncate?_eq
    (hFinite : x.isFinite = true) :
    x.truncate? = some (x.steps.tdiv stepsInOne) := by
  cases x with
  | nan => cases hFinite
  | infinite s => cases hFinite
  | finite s m e hCanonical =>
      rcases exists_steps_ratio m hCanonical.2.1 with
        ⟨k, hk, hSteps, hOne⟩
      rw [truncate?, steps, hSteps, hOne]
      cases s with
      | false =>
          change some (((_ / _ : Nat) : Int)) =
            some (Int.tdiv ((_ : Nat) : Int) _)
          rw [← Int.ofNat_tdiv, Nat.mul_div_mul_right _ _ hk]
      | true =>
          change some (-((_ / _ : Nat) : Int)) =
            some (Int.tdiv (-((_ : Nat) : Int)) _)
          rw [Int.neg_tdiv, ← Int.ofNat_tdiv,
            Nat.mul_div_mul_right _ _ hk]

/- The steps of a finite double are those that doubles have. -/
theorem spacing_dvd_steps
    (hFinite : x.isFinite = true) :
    spacing x.steps.natAbs ∣ x.steps.natAbs := by
  cases x with
  | nan => cases hFinite
  | infinite s => cases hFinite
  | finite s m e hCanonical =>
      rw [steps, natAbs_signed, scaleUp_eq]
      exact spacing_dvd_mul (Nat.le_of_lt hCanonical.1) _

/- The number of steps from zero to the largest finite double. -/
theorem natAbs_steps_le
    (hFinite : x.isFinite = true) :
    x.steps.natAbs ≤
      9007199254740991 * 2 ^ (971 + 1074 : Int).toNat := by
  cases x with
  | nan => cases hFinite
  | infinite s => cases hFinite
  | finite s m e hCanonical =>
      have hMantissa := hCanonical.1
      have hMost := hCanonical.2.2.1
      rw [steps, natAbs_signed, scaleUp_eq]
      exact Nat.mul_le_mul (by omega)
        (Nat.pow_le_pow_right Nat.two_pos (by omega))

/- One half more does not lead beyond the doubles. -/
theorem nearestWhole_half_lt
    (hFinite : x.isFinite = true) :
    nearestWhole (x.steps.natAbs + stepsInHalf) <
      infiniteSteps := by
  have hSteps := natAbs_steps_le hFinite
  rw [infiniteSteps, scaleUp_eq]
  obtain ⟨k, hk⟩ : ∃ k, (971 + 1074 : Int).toNat = k := ⟨_, rfl⟩
  rw [hk] at hSteps ⊢
  have hHalf : 4 * stepsInHalf ≤ 2 ^ k := by
    have hFour : 4 = 2 ^ 2 := rfl
    rw [stepsInHalf, hFour, ← pow_add]
    exact pow_le_pow_right₀ one_le_two (by omega)
  generalize x.steps.natAbs = n at hSteps ⊢
  have hPositive := stepsInHalf_pos
  have hn : n + stepsInHalf ≠ 0 := by omega
  have hBits : (n + stepsInHalf).log2 < 53 + k := by
    rw [Nat.log2_lt hn, Nat.pow_add]
    omega
  have hSpacing : spacing (n + stepsInHalf) ≤ 2 ^ k :=
    Nat.pow_le_pow_right Nat.two_pos (by omega)
  have hNear := divNearest_near (n + stepsInHalf)
    (spacing_pos (n + stepsInHalf))
  rw [← nearestWhole] at hNear
  omega

/-
  The magnitude of a finite double is rounded to the whole part of
  what it and one half add up to.
-/
theorem halfAway_eq
    (hFinite : x.isFinite = true) :
    x.halfAway =
      signed x.isNegative
        (nearestWhole (x.steps.natAbs + stepsInHalf) /
          stepsInOne) := by
  have hSum :
      x.abs.steps + half.steps =
        (x.steps.natAbs + stepsInHalf : Nat) := by
    rw [steps_abs hFinite, steps_half.2, Nat.cast_add]
  have hRange := nearestWhole_half_lt hFinite
  rcases steps_add ((isFinite_abs x).trans hFinite) steps_half.1
      (by rwa [hSum, Int.natAbs_natCast]) with
    ⟨hSumFinite, hSumSteps⟩
  have hPositive :
      ¬ ((x.steps.natAbs + stepsInHalf : Nat) : Int) < 0 :=
    Int.not_lt.mpr (Int.natCast_nonneg _)
  rw [hSum, Int.natAbs_natCast, decide_eq_false hPositive]
    at hSumSteps
  rw [halfAway, if_pos hFinite, truncate?_eq hSumFinite, hSumSteps]
  change (if x.isNegative then -Int.tdiv ((_ : Nat) : Int) _
    else Int.tdiv ((_ : Nat) : Int) _) = _
  rw [← Int.ofNat_tdiv]
  rfl

------------------------------------------------------------
-- Settled Integers
------------------------------------------------------------

/-
  Whether rounding leaves a natural as it is: doubles have it, and
  one half more than it is no tie that goes to the next natural.
-/
structure IsSettled
    (n : Nat) :
    Prop where
  divides : spacing n ∣ n
  even : n < 2 ^ 52 ∨ 2 ∣ n

theorem isSettled_of_lt
    {n : Nat}
    (hSmall : n < 2 ^ 52) :
    IsSettled n :=
  ⟨spacing_dvd_of_le (by omega), .inl hSmall⟩

/- Naturals of 53 bits or more, scaled up, are as far apart. -/
theorem spacing_mul_two_pow
    {n : Nat}
    (hMany : 52 ≤ n.log2)
    (k : Nat) :
    spacing (n * 2 ^ k) = spacing n * 2 ^ k := by
  have hn : n ≠ 0 := by
    rintro rfl
    exact absurd hMany (by decide)
  rw [spacing, log2_mul_two_pow hn, Nat.sub_add_comm hMany,
    Nat.pow_add, spacing]

/- A rest of at most one half is dropped from an even quotient. -/
theorem divNearest_add
    {den rest c : Nat}
    (hDen : 0 < den)
    (hRest : 2 * rest ≤ den)
    (hEven : 2 * rest = den → 2 ∣ c) :
    divNearest (den * c + rest) den = c := by
  have hLess : rest < den := by omega
  unfold divNearest
  dsimp only
  rw [Nat.mul_add_div hDen, Nat.mul_add_mod_self_left,
    Nat.div_eq_of_lt hLess, Nat.mod_eq_of_lt hLess, Nat.add_zero]
  split_ifs with hBelow hAbove
  · rfl
  · omega
  · have hTie := hEven (by omega)
    omega

/- One half more than an integer has the integer as whole part. -/
theorem mul_half_div
    (n : Nat) :
    (n * stepsInOne + stepsInHalf) / stepsInOne = n := by
  have hHalf := stepsInHalf_pos
  rw [Nat.mul_comm, Nat.mul_add_div stepsInOne_pos,
    Nat.div_eq_of_lt (by rw [stepsInOne_eq]; omega), Nat.add_zero]

/- One half more than a settled natural is rounded down to it. -/
theorem IsSettled.nearestWhole_half
    {n : Nat}
    (hSettled : IsSettled n) :
    nearestWhole (n * stepsInOne + stepsInHalf) / stepsInOne =
      n := by
  have hSum :
      n * stepsInOne + stepsInHalf =
        (2 * n + 1) * stepsInHalf := by
    rw [stepsInOne_eq, Nat.add_mul, Nat.one_mul, Nat.mul_comm 2 n,
      Nat.mul_assoc]
  rcases Nat.lt_or_ge n (2 ^ 52) with hFew | hMany
  -- one bit more is left for the half
  · have hDivides :
        spacing (n * stepsInOne + stepsInHalf) ∣
          n * stepsInOne + stepsInHalf := by
      rw [hSum]
      exact spacing_dvd_mul (by omega) 1073
    rw [nearestWhole_of_dvd hDivides, mul_half_div]
  -- the half is at most half a spacing
  · have hEven : 2 ∣ n := by
      rcases hSettled.even with hLess | hEven
      · exact absurd hMany (Nat.not_le.mpr hLess)
      · exact hEven
    have hn : n ≠ 0 := by
      rintro rfl
      exact absurd hMany (by decide)
    have hOdd : (2 * n + 1).log2 = n.log2 + 1 := by
      rw [Nat.log2_eq_iff (by omega)]
      have hLow := Nat.log2_self_le hn
      have hHigh := Nat.lt_log2_self (n := n)
      rw [Nat.pow_succ] at hHigh
      rw [Nat.pow_succ, Nat.pow_succ, Nat.pow_succ]
      omega
    have hLog : 52 ≤ n.log2 := (Nat.le_log2 hn).mpr hMany
    have hTwice : spacing (2 * n + 1) = spacing n * 2 := by
      rw [spacing, hOdd, Nat.sub_add_comm hLog, Nat.pow_succ,
        spacing]
    have hSpacing :
        spacing (n * stepsInOne + stepsInHalf) =
          spacing n * stepsInOne := by
      have hScaled :=
        spacing_mul_two_pow (n := 2 * n + 1) (by omega) 1073
      rw [hTwice, ← stepsInHalf, ← hSum, Nat.mul_assoc,
        ← stepsInOne_eq] at hScaled
      exact hScaled
    rcases hSettled.divides with ⟨c, hc⟩
    have hMultiple :
        n * stepsInOne = spacing n * stepsInOne * c := by
      rw [Nat.mul_right_comm, ← hc]
    have hQuotient :
        divNearest (n * stepsInOne + stepsInHalf)
          (spacing n * stepsInOne) = c := by
      have hDen := Nat.mul_pos (spacing_pos n) stepsInOne_pos
      rw [hMultiple]
      refine divNearest_add hDen ?_ fun hTie => ?_
      · rw [← stepsInOne_eq]
        exact Nat.le_mul_of_pos_left _ (spacing_pos n)
      · rw [← stepsInOne_eq] at hTie
        have hOne : spacing n = 1 :=
          Nat.eq_of_mul_eq_mul_right stepsInOne_pos
            (hTie.symm.trans (Nat.one_mul _).symm)
        rw [hOne, Nat.one_mul] at hc
        exact hc ▸ hEven
    rw [nearestWhole, hSpacing, hQuotient, Nat.mul_comm c,
      ← hMultiple, Nat.mul_div_cancel _ stepsInOne_pos]

theorem signed_isNegative
    (hFinite : x.isFinite = true) :
    signed x.isNegative x.steps.natAbs = x.steps := by
  cases x with
  | nan => cases hFinite
  | infinite s => cases hFinite
  | finite s m e hCanonical =>
      rw [steps, natAbs_signed]
      rfl

/- A settled integer is rounded to itself. -/
theorem IsInteger.halfAway
    (hx : x.IsInteger a)
    (hSettled : IsSettled a.natAbs) :
    x.halfAway = a := by
  have hSize : x.steps.natAbs = a.natAbs * stepsInOne := by
    rw [hx.steps, Int.natAbs_mul, Int.natAbs_natCast]
  rw [halfAway_eq hx.finite, hSize, hSettled.nearestWhole_half]
  have hOne : (stepsInOne : Int) ≠ 0 :=
    Int.natCast_ne_zero.mpr stepsInOne_pos.ne'
  apply Int.eq_of_mul_eq_mul_right hOne
  rw [← signed_mul, ← hSize, signed_isNegative hx.finite, hx.steps]

/-
  Where doubles are one apart, one half more than a double is a
  tie, or the first number of 53 bits.
-/
theorem even_divNearest_half
    {n : Nat}
    (hDivides : spacing n ∣ n)
    (hLog : (n + stepsInHalf).log2 = 1126) :
    2 ∣ divNearest (n + stepsInHalf) stepsInOne := by
  obtain ⟨k, hk⟩ : ∃ k, 1073 = k := ⟨_, rfl⟩
  have hHalf : stepsInHalf = 2 ^ k := by rw [stepsInHalf, hk]
  have hPower := Nat.two_pow_pos k
  have hOne : stepsInOne = 2 * 2 ^ k := by
    rw [stepsInOne_eq, hHalf]
  have hLeast : 2 ^ 53 * 2 ^ k ≤ n + 2 ^ k := by
    rw [← Nat.pow_add, ← hHalf]
    refine (Nat.le_log2 (by omega)).mp ?_
    omega
  have hLow : k + 52 ≤ n.log2 := by
    rw [Nat.le_log2 (by omega), Nat.pow_add]
    omega
  have hWhole : 2 ^ k ∣ n :=
    (Nat.pow_dvd_pow 2 (by omega)).trans hDivides
  rcases hWhole with ⟨d, hd⟩
  rw [hHalf, hOne]
  rcases Nat.even_or_odd' d with ⟨c, hEven | hOdd⟩
  -- a tie, which goes to the even one
  · have hSum : n + 2 ^ k = 2 * 2 ^ k * c + 2 ^ k := by
      rw [hd, hEven, Nat.mul_left_comm, Nat.mul_assoc]
    have hLess : 2 ^ k < 2 * 2 ^ k := by omega
    unfold divNearest
    dsimp only
    rw [hSum, Nat.mul_add_div (by omega), Nat.div_eq_of_lt hLess,
      Nat.mul_add_mod_self_left, Nat.mod_eq_of_lt hLess,
      if_neg (Nat.lt_irrefl _), if_neg (Nat.lt_irrefl _)]
    omega
  -- half a spacing below the first number of 53 bits
  · have hTop : n.log2 < k + 53 := by
      by_contra hMore
      have hTwice : 2 ^ (k + 1) ∣ 2 ^ k * (2 * c + 1) := by
        rw [← hOdd, ← hd]
        exact (Nat.pow_dvd_pow 2 (by omega)).trans hDivides
      rw [Nat.pow_succ] at hTwice
      have hTwo := Nat.dvd_of_mul_dvd_mul_left hPower hTwice
      omega
    have hBelow : n < 2 ^ k * 2 ^ 53 := by
      rw [← Nat.pow_add]
      exact lt_two_pow_of_log2_lt hTop
    have hFew : d < 2 ^ 53 :=
      Nat.lt_of_mul_lt_mul_left (hd ▸ hBelow)
    have hMany : 2 ^ 53 ≤ d + 1 := by
      refine Nat.le_of_mul_le_mul_right ?_ hPower
      rwa [Nat.add_mul, Nat.one_mul, Nat.mul_comm d, ← hd]
    have hSum : n + 2 ^ k = 2 ^ 52 * (2 * 2 ^ k) := by
      have hFull : d + 1 = 2 ^ 52 * 2 := by omega
      rw [← Nat.mul_assoc, ← hFull, hd, Nat.add_mul, Nat.one_mul,
        Nat.mul_comm d]
    rw [hSum, divNearest_mul _ (by omega)]
    decide

/- The whole part of a sum with one half is settled. -/
theorem isSettled_nearestWhole_half
    {n : Nat}
    (hDivides : spacing n ∣ n) :
    IsSettled
      (nearestWhole (n + stepsInHalf) / stepsInOne) := by
  have hMost := divNearest_spacing_le (n + stepsInHalf)
  rcases Nat.lt_or_ge (n + stepsInHalf).log2 1126 with hFew | hMany
  -- the sum is at most the first number of 53 bits
  · have hSpacing : spacing (n + stepsInHalf) ≤ stepsInHalf :=
      pow_le_pow_right₀ one_le_two (by omega)
    have hSum : nearestWhole (n + stepsInHalf) ≤
        2 ^ 52 * stepsInOne := by
      rw [nearestWhole, stepsInOne_eq, ← Nat.mul_assoc]
      exact Nat.mul_le_mul hMost hSpacing
    have hQuotient :
        nearestWhole (n + stepsInHalf) / stepsInOne ≤ 2 ^ 52 :=
      Nat.div_le_of_le_mul (hSum.trans_eq (Nat.mul_comm _ _))
    refine ⟨spacing_dvd_of_le (by omega), ?_⟩
    omega
  -- the sum is rounded to a multiple of one
  · obtain ⟨k, hk⟩ := Nat.exists_eq_add_of_le hMany
    have hSpacing :
        spacing (n + stepsInHalf) = 2 ^ k * stepsInOne := by
      have hPower : 1126 + k - 52 = k + 1074 := by omega
      rw [spacing, stepsInOne, hk, hPower, pow_add]
    have hQuotient :
        nearestWhole (n + stepsInHalf) / stepsInOne =
          divNearest (n + stepsInHalf)
            (spacing (n + stepsInHalf)) * 2 ^ k := by
      rw [nearestWhole, hSpacing, ← Nat.mul_assoc,
        Nat.mul_div_cancel _ stepsInOne_pos]
    rw [hQuotient]
    refine ⟨spacing_dvd_mul hMost k, .inr ?_⟩
    rcases Nat.eq_zero_or_pos k with rfl | hPositive
    · rw [hSpacing, Nat.pow_zero, Nat.one_mul, Nat.mul_one]
      exact even_divNearest_half hDivides hk
    · exact Nat.dvd_mul_left_of_dvd
        (Nat.pow_dvd_pow 2 (n := k) (m := 1) hPositive) _

/- What rounding half away comes to is settled. -/
theorem isSettled_halfAway
    (x : Double) :
    IsSettled x.halfAway.natAbs := by
  by_cases hFinite : x.isFinite = true
  · rw [halfAway_eq hFinite, natAbs_signed]
    exact isSettled_nearestWhole_half (spacing_dvd_steps hFinite)
  · rw [Double.halfAway, if_neg hFinite]
    exact ⟨by decide, .inl (by decide)⟩

/- What rounding half away comes to is in the range of doubles. -/
theorem natAbs_halfAway_lt
    (x : Double) :
    x.halfAway.natAbs < integerBound := by
  have hNone : Int.natAbs 0 < integerBound := by decide +kernel
  unfold Double.halfAway
  split_ifs with hFinite hNegative
  · split
    · rename_i n hWhole
      rw [Int.natAbs_neg]
      exact exists_ofInt?_iff.mp (exists_ofInt?_truncate? hWhole)
    · exact hNone
  · split
    · rename_i n hWhole
      exact exists_ofInt?_iff.mp (exists_ofInt?_truncate? hWhole)
    · exact hNone
  · exact hNone

/- A settled integer in range is read as a double and back. -/
theorem IsSettled.exists_ofInt?
    (hSettled : IsSettled a.natAbs)
    (hRange : a.natAbs < integerBound) :
    ∃ x, ofInt? a = some x ∧ x.isFinite = true ∧
      x.halfAway = a := by
  rcases exists_ofInt?_iff.mpr hRange with ⟨x, hRead⟩
  have hInteger := isInteger_of_ofInt? hRead hSettled.divides
  exact ⟨x, hRead, hInteger.finite, hInteger.halfAway hSettled⟩

/- Rounding what rounding half away comes to changes nothing. -/
theorem exists_halfAway_ofInt?
    (x : Double) :
    ∃ y, ofInt? x.halfAway = some y ∧ y.isFinite = true ∧
      y.halfAway = x.halfAway :=
  (isSettled_halfAway x).exists_ofInt? (natAbs_halfAway_lt x)

end Double

end LabelPress

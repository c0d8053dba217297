import LabelPress.Proofs.Double.HalfAway
import LabelPress.Value.Number
import Mathlib.Algebra.Order.Field.Basic
import Mathlib.Data.Rat.Cast.Order
import Mathlib.Tactic.Linarith
import Mathlib.Tactic.Qify

/-
  Integers nearest to doubles.

  Halves go away from zero by adding one half to the magnitude and
  dropping the fraction.  The sum is rounded, and may be carried
  over to an integer that is too large: from the last double below
  one half to one, and from an odd integer of 53 bits, which with
  the half is a tie, to the next even one.  For all other doubles
  the integer is the nearest one.

  Main declarations:
    * `Double.exact`, `Double.IsNearestAway`
    * `Double.CarriesOver`
    * `Double.isNearestAway_halfAway_iff`
    * `Value.roundedHalfAway_nearest_iff`
-/

namespace LabelPress

namespace Double

variable {x : Double}

------------------------------------------------------------
-- Exact Values
------------------------------------------------------------

/- The rational number that a finite double denotes. -/
def exact :
    Double → ℚ
  | .finite s m e _ => signed s m * 2 ^ e
  | _ => 0

theorem stepsInOne_ne_zero :
    (stepsInOne : ℚ) ≠ 0 :=
  Nat.cast_ne_zero.mpr stepsInOne_pos.ne'

/- The number that a double denotes is its steps, in ones. -/
theorem exact_eq_steps
    (hFinite : x.isFinite = true) :
    x.exact = x.steps / stepsInOne := by
  cases x with
  | nan => cases hFinite
  | infinite s => cases hFinite
  | finite s m e hCanonical =>
      have hLeast := hCanonical.2.1
      have hPower :
          (2 : ℚ) ^ e * stepsInOne = 2 ^ (e + 1074).toNat := by
        have hExponent : ((e + 1074).toNat : Int) = e + 1074 := by
          omega
        rw [stepsInOne, Nat.cast_pow, Nat.cast_ofNat,
          ← zpow_natCast, ← zpow_natCast, hExponent,
          ← zpow_add₀ two_ne_zero]
        rfl
      rw [eq_div_iff stepsInOne_ne_zero, exact, steps, scaleUp_eq,
        signed_mul, mul_assoc, hPower]
      push_cast
      rfl

theorem abs_exact
    (hFinite : x.isFinite = true) :
    |x.exact| = x.steps.natAbs / stepsInOne := by
  rw [exact_eq_steps hFinite, abs_div, Nat.abs_cast,
    Nat.cast_natAbs, Int.cast_abs]

theorem exact_eq_signed
    (hFinite : x.isFinite = true) :
    x.exact =
      signed x.isNegative x.steps.natAbs / stepsInOne := by
  rw [exact_eq_steps hFinite, signed_isNegative hFinite]

/- A double denotes an integer if its steps are those of it. -/
theorem exact_eq_int_iff
    (hFinite : x.isFinite = true)
    (a : Int) :
    x.exact = a ↔ x.steps = a * stepsInOne := by
  rw [exact_eq_steps hFinite, div_eq_iff stepsInOne_ne_zero]
  constructor
  · intro hSame
    exact_mod_cast hSame
  · intro hSame
    rw [hSame]
    push_cast
    rfl

------------------------------------------------------------
-- Nearest Integers
------------------------------------------------------------

/-
  Whether an integer is the one nearest to a number, the one
  farther from zero if there are two.
-/
structure IsNearestAway
    (v : ℚ)
    (n : Int) :
    Prop where
  near : |n - v| ≤ 1 / 2
  away : |n - v| = 1 / 2 → |v| < |(n : ℚ)|

section Nearest

variable {v : ℚ}
variable {n k : Int}

theorem IsNearestAway.neg
    (hn : IsNearestAway v n) :
    IsNearestAway (-v) (-n) := by
  have hDistance : |((-n : Int) : ℚ) - -v| = |(n : ℚ) - v| := by
    rw [Int.cast_neg, neg_sub_neg, abs_sub_comm]
  refine ⟨?_, fun hTie => ?_⟩
  · rw [hDistance]
    exact hn.near
  · rw [hDistance] at hTie
    rw [abs_neg, Int.cast_neg, abs_neg]
    exact hn.away hTie

/- An integer is nearest to itself alone. -/
theorem isNearestAway_int_iff
    (a : Int) :
    IsNearestAway a n ↔ n = a := by
  have hWhole : |(n : ℚ) - a| = ((n - a).natAbs : ℚ) := by
    rw [Nat.cast_natAbs]
    push_cast
    rfl
  constructor
  · intro hn
    have hNear := hn.near
    rw [hWhole] at hNear
    have hLess : (n - a).natAbs < 1 := by
      by_contra hMore
      have hOne : (1 : ℚ) ≤ ((n - a).natAbs : ℚ) := by
        exact_mod_cast Nat.not_lt.mp hMore
      linarith
    omega
  · rintro rfl
    rw [sub_self, abs_zero] at hWhole
    refine ⟨?_, fun hTie => ?_⟩
    · rw [sub_self, abs_zero]
      norm_num
    · rw [sub_self, abs_zero] at hTie
      norm_num at hTie

/- Of two neighbours at most one is the nearest integer. -/
theorem IsNearestAway.not_succ
    (hn : IsNearestAway v n) :
    ¬ IsNearestAway v (n + 1) := by
  intro hNext
  have hNear := abs_le.mp hn.near
  have hNear' := abs_le.mp hNext.near
  push_cast at hNear'
  have hMiddle : v = n + 1 / 2 := by linarith
  have hAway := hn.away (by
    rw [hMiddle, sub_add_cancel_left, abs_neg]
    exact abs_of_nonneg (by norm_num))
  have hAway' := hNext.away (by
    rw [hMiddle]
    push_cast
    rw [add_sub_add_left_eq_sub]
    norm_num)
  push_cast at hAway'
  rcases lt_or_ge n 0 with hBelow | hAbove
  · have hLeast : (n : ℚ) + 1 ≤ 0 := by exact_mod_cast hBelow
    rw [hMiddle, abs_of_nonpos hLeast,
      abs_of_nonpos (by linarith)] at hAway'
    linarith
  · have hLeast : (0 : ℚ) ≤ n := by exact_mod_cast hAbove
    rw [hMiddle, abs_of_nonneg hLeast,
      abs_of_nonneg (by linarith)] at hAway
    linarith

theorem IsNearestAway.unique
    (hn : IsNearestAway v n)
    (hk : IsNearestAway v k) :
    n = k := by
  have hNear := abs_le.mp hn.near
  have hNear' := abs_le.mp hk.near
  have hMost : n ≤ k + 1 := by
    have hCast : (n : ℚ) ≤ k + 1 := by linarith
    exact_mod_cast hCast
  have hLeast : k ≤ n + 1 := by
    have hCast : (k : ℚ) ≤ n + 1 := by linarith
    exact_mod_cast hCast
  by_contra hOther
  rcases Int.lt_or_gt_of_ne hOther with hLess | hMore
  · obtain rfl : k = n + 1 := by omega
    exact hn.not_succ hk
  · obtain rfl : n = k + 1 := by omega
    exact hk.not_succ hn

/- One half more, without its fraction, is the nearest integer. -/
theorem isNearestAway_div
    (m : Nat) :
    IsNearestAway ((m : ℚ) / stepsInOne)
      ((m + stepsInHalf) / stepsInOne : Nat) := by
  have hPositive : (0 : ℚ) < stepsInOne :=
    Nat.cast_pos.mpr stepsInOne_pos
  have hHalf := stepsInOne_eq
  have hSplit := Nat.div_add_mod (m + stepsInHalf) stepsInOne
  have hRest := Nat.mod_lt (m + stepsInHalf) stepsInOne_pos
  generalize (m + stepsInHalf) / stepsInOne = w at hSplit ⊢
  have hLow : 2 * (stepsInOne * w) ≤ 2 * m + stepsInOne := by
    omega
  have hHigh : 2 * m < 2 * (stepsInOne * w) + stepsInOne := by
    omega
  qify at hLow hHigh
  have hMost : (w : ℚ) - 1 / 2 ≤ m / stepsInOne := by
    rw [le_div_iff₀ hPositive]
    linarith
  have hLeast : (m : ℚ) / stepsInOne < w + 1 / 2 := by
    rw [div_lt_iff₀ hPositive]
    linarith
  have hNonneg : (0 : ℚ) ≤ m / stepsInOne :=
    div_nonneg (Nat.cast_nonneg m) hPositive.le
  refine ⟨?_, fun hTie => ?_⟩
  · rw [Int.cast_natCast]
    exact abs_le.mpr ⟨by linarith, by linarith⟩
  · rw [Int.cast_natCast] at hTie ⊢
    rw [abs_of_nonneg hNonneg, Nat.abs_cast]
    rcases (abs_eq (by norm_num)).mp hTie with hAbove | hBelow
    · linarith
    · linarith

end Nearest

------------------------------------------------------------
-- Sums with One Half
------------------------------------------------------------

section Sums

variable {n : Nat}

/- One half in parts of its last double; no power is computed. -/
theorem exists_stepsInHalf :
    ∃ k, 1020 = k ∧ stepsInHalf = 2 ^ 53 * 2 ^ k := by
  refine ⟨_, rfl, ?_⟩
  rw [stepsInHalf, ← Nat.pow_add]

/- Below one half, all sums but the last one stay below one. -/
theorem nearestWhole_half_of_lt
    (hSmall : n < stepsInHalf) :
    nearestWhole (n + stepsInHalf) / stepsInOne =
        (n + stepsInHalf) / stepsInOne ↔
      n + 2 ^ 1020 < stepsInHalf := by
  rcases exists_stepsInHalf with ⟨k, hk, hHalf⟩
  have hOne := stepsInOne_eq
  have hPower := Nat.two_pow_pos k
  have hNone : (n + stepsInHalf) / stepsInOne = 0 :=
    Nat.div_eq_of_lt (by omega)
  have hLog : (n + stepsInHalf).log2 = 53 + k := by
    rw [Nat.log2_eq_iff (by omega), Nat.pow_succ, Nat.pow_add]
    omega
  have hSpacing : spacing (n + stepsInHalf) = 2 * 2 ^ k := by
    have hBits : 53 + k - 52 = 1 + k := by omega
    rw [spacing, hLog, hBits, Nat.pow_add, Nat.pow_one]
  have hBelow :
      divNearest (n + stepsInHalf) (2 * 2 ^ k) < 2 ^ 53 ↔
        2 * (n + stepsInHalf) + 2 * 2 ^ k <
          2 * (2 ^ 53 * (2 * 2 ^ k)) :=
    divNearest_lt_iff (by omega) (by decide)
  have hWhole : stepsInOne = 2 ^ 53 * (2 * 2 ^ k) := by
    omega
  rw [hk, hNone, Nat.div_eq_zero_iff_lt stepsInOne_pos,
    nearestWhole, hSpacing, hWhole, Nat.mul_lt_mul_right (by omega),
    hBelow]
  omega

/- Just past a power of two the sum has that power as its whole. -/
theorem nearestWhole_half_of_passed
    (hLeast : stepsInHalf ≤ n)
    (hFew : n.log2 < 1126)
    (hPassed : n.log2 < (n + stepsInHalf).log2) :
    nearestWhole (n + stepsInHalf) / stepsInOne =
      (n + stepsInHalf) / stepsInOne := by
  have hPositive := stepsInHalf_pos
  have hOne := stepsInOne_eq
  have hSum : n + stepsInHalf ≠ 0 := by omega
  obtain ⟨l, hl⟩ : ∃ l, (n + stepsInHalf).log2 = l := ⟨_, rfl⟩
  have hBefore : n < 2 ^ l := hl ▸ lt_two_pow_of_log2_lt hPassed
  have hReached : 2 ^ l ≤ n + stepsInHalf :=
    hl ▸ Nat.log2_self_le hSum
  have hLow : 1074 ≤ l := by
    have hEnough : stepsInOne ≤ n + stepsInHalf := by omega
    obtain ⟨k, hk⟩ : ∃ k, k = 1074 := ⟨_, rfl⟩
    rw [stepsInOne, ← hk] at hEnough
    rw [← hl, ← hk]
    exact (Nat.le_log2 hSum).mpr hEnough
  have hHigh : l ≤ 1126 := by
    have hTwice : n + stepsInHalf < 2 ^ (n.log2 + 1 + 1) := by
      have hNext := Nat.lt_log2_self (n := n)
      rw [Nat.pow_succ _ (n.log2 + 1)]
      omega
    have hNear := (Nat.log2_lt hSum).mpr hTwice
    omega
  have hSpacing : spacing (n + stepsInHalf) ≤ stepsInOne := by
    rw [spacing, hl]
    exact pow_le_pow_right₀ one_le_two (by omega)
  have hNear := divNearest_near (n + stepsInHalf)
    (spacing_pos (n + stepsInHalf))
  rw [← nearestWhole] at hNear
  have hBelow :
      nearestWhole (n + stepsInHalf) < 2 ^ l + stepsInOne := by
    omega
  have hAbove : 2 ^ l ≤ nearestWhole (n + stepsInHalf) := by
    have hMantissa :=
      le_divNearest_spacing (n := n + stepsInHalf) (by omega)
    have hPower : 2 ^ 52 * spacing (n + stepsInHalf) = 2 ^ l := by
      rw [spacing, hl, ← pow_add, Nat.add_sub_cancel' (by omega)]
    rw [← hPower]
    exact Nat.mul_le_mul_right _ hMantissa
  have hWhole : 2 ^ (l - 1074) * stepsInOne = 2 ^ l := by
    rw [stepsInOne, ← pow_add, Nat.sub_add_cancel hLow]
  have hDropped :
      ∀ t, 2 ^ l ≤ t → t < 2 ^ l + stepsInOne →
        t / stepsInOne = 2 ^ (l - 1074) := by
    intro t hFrom hTo
    refine Nat.div_eq_of_lt_le ?_ ?_
    · rwa [hWhole]
    · rwa [Nat.succ_mul, hWhole]
  rw [hDropped _ hAbove hBelow, hDropped _ hReached (by omega)]

/- Up to 52 bits the sum is rounded to where it came from. -/
theorem nearestWhole_half_of_ge
    (hDivides : spacing n ∣ n)
    (hLeast : stepsInHalf ≤ n)
    (hFew : n.log2 < 1126) :
    nearestWhole (n + stepsInHalf) / stepsInOne =
      (n + stepsInHalf) / stepsInOne := by
  have hPositive := stepsInHalf_pos
  have hn : n ≠ 0 := by omega
  have hBits : n.log2 ≤ (n + stepsInHalf).log2 :=
    (Nat.le_log2 (by omega)).mpr
      ((Nat.log2_self_le hn).trans (Nat.le_add_right _ _))
  rcases Nat.eq_or_lt_of_le hBits with hSame | hPassed
  -- the half is a multiple of the distance between the doubles
  · have hHalf : spacing n ∣ stepsInHalf :=
      pow_dvd_pow 2 (by omega)
    have hWhole : spacing (n + stepsInHalf) ∣ n + stepsInHalf := by
      rw [spacing, ← hSame, ← spacing]
      exact Nat.dvd_add hDivides hHalf
    rw [nearestWhole_of_dvd hWhole]
  · exact nearestWhole_half_of_passed hLeast hFew hPassed

/- Of the integers only odd ones of 53 bits are not settled. -/
theorem isSettled_iff
    {c : Nat}
    (hDivides : spacing (c * stepsInOne) ∣ c * stepsInOne) :
    IsSettled c ↔ (2 ^ 52 ≤ c → c < 2 ^ 53 → 2 ∣ c) := by
  constructor
  · intro hSettled hMany hFew
    rcases hSettled.even with hLess | hEven
    · exact absurd hMany (Nat.not_le.mpr hLess)
    · exact hEven
  · intro hEven
    rcases Nat.lt_or_ge c (2 ^ 52) with hFew | hMany
    · exact isSettled_of_lt hFew
    · have hc : c ≠ 0 := by
        rintro rfl
        exact absurd hMany (by decide)
      have hLog := (Nat.le_log2 hc).mpr hMany
      have hSpacing : spacing c ∣ c := by
        have hScaled :
            spacing (c * stepsInOne) = spacing c * stepsInOne :=
          spacing_mul_two_pow hLog 1074
        rw [hScaled] at hDivides
        exact Nat.dvd_of_mul_dvd_mul_right stepsInOne_pos hDivides
      refine ⟨hSpacing, .inr ?_⟩
      rcases Nat.lt_or_ge c (2 ^ 53) with hLess | hMore
      · exact hEven hMany hLess
      · have hMoreLog := (Nat.le_log2 hc).mpr hMore
        have hTwo : 2 ∣ spacing c :=
          dvd_pow_self 2 (by omega)
        exact hTwo.trans hSpacing

/- Of the integers only the settled ones stay what they are. -/
theorem nearestWhole_half_iff_isSettled
    {c : Nat}
    (hDivides : spacing (c * stepsInOne) ∣ c * stepsInOne) :
    nearestWhole (c * stepsInOne + stepsInHalf) / stepsInOne =
        (c * stepsInOne + stepsInHalf) / stepsInOne ↔
      IsSettled c := by
  rw [mul_half_div]
  constructor
  · intro hSame
    rw [← hSame]
    exact isSettled_nearestWhole_half hDivides
  · exact IsSettled.nearestWhole_half

/- From 53 bits on all doubles are integers. -/
theorem exists_integer_of_many
    (hDivides : spacing n ∣ n)
    (hMany : 1126 ≤ n.log2) :
    ∃ c, n = c * stepsInOne ∧ 2 ^ 52 ≤ c := by
  have hPower : stepsInOne ∣ spacing n := pow_dvd_pow 2 (by omega)
  have hWhole : stepsInOne ∣ n := Nat.dvd_trans hPower hDivides
  have hn : n ≠ 0 := by
    rintro rfl
    exact absurd hMany (by decide)
  have hEnough : 2 ^ 52 * stepsInOne ≤ n := by
    refine Nat.le_trans ?_ (Nat.log2_self_le hn)
    rw [stepsInOne, ← pow_add]
    exact pow_le_pow_right₀ one_le_two (by omega)
  exact ⟨n / stepsInOne, (Nat.div_mul_cancel hWhole).symm,
    (Nat.le_div_iff_mul_le stepsInOne_pos).mpr hEnough⟩

/- The last double below one half is all that is so close to it. -/
theorem add_eq_half_iff
    (hDivides : spacing n ∣ n)
    (hSmall : n < stepsInHalf) :
    n + 2 ^ 1020 = stepsInHalf ↔ ¬ n + 2 ^ 1020 < stepsInHalf := by
  rcases exists_stepsInHalf with ⟨k, hk, hHalf⟩
  have hPower := Nat.two_pow_pos k
  rw [hk]
  refine ⟨fun hSame => ?_, fun hMore => ?_⟩
  · omega
  · have hLog : n.log2 = 52 + k := by
      rw [Nat.log2_eq_iff (by omega), Nat.pow_succ, Nat.pow_add]
      omega
    rw [spacing, hLog, Nat.add_sub_cancel_left] at hDivides
    rcases hDivides with ⟨c, hc⟩
    have hLess : c < 2 ^ 53 := by
      apply Nat.lt_of_mul_lt_mul_left (a := 2 ^ k)
      omega
    have hMost : 2 ^ 53 ≤ c + 1 := by
      refine Nat.le_of_mul_le_mul_left ?_ hPower
      rw [Nat.mul_add, ← hc]
      omega
    have hLast : c = 2 ^ 53 - 1 := by omega
    rw [hc, hLast]
    omega

end Sums

------------------------------------------------------------
-- Carries
------------------------------------------------------------

/-
  Whether one half more than a number is carried over an integer:
  the number is the last double below one half, or an odd integer
  of 53 bits, of either sign.
-/
inductive CarriesOver
    (v : ℚ) :
    Prop where
  | belowHalf
      (hNumber : |v| = 1 / 2 - 1 / 2 ^ 54)
  | odd
      (a : Int)
      (hNumber : v = a)
      (hOdd : ¬ 2 ∣ a)
      (hLeast : 2 ^ 52 ≤ a.natAbs)
      (hMost : a.natAbs < 2 ^ 53)

theorem exact_belowHalf_iff
    (hFinite : x.isFinite = true) :
    |x.exact| = 1 / 2 - 1 / 2 ^ 54 ↔
      x.steps.natAbs + 2 ^ 1020 = stepsInHalf := by
  have hNatural :
      ∀ n b : Nat, (n : ℚ) + b = 2 ^ 53 * b ↔ n + b = 2 ^ 53 * b := by
    intro n b
    norm_cast
  rcases exists_stepsInHalf with ⟨k, hk, hHalf⟩
  rw [hk]
  generalize 2 ^ k = b at hHalf ⊢
  have hOne : (stepsInOne : ℚ) = 2 ^ 54 * b := by
    have hWhole : stepsInOne = 2 ^ 54 * b := by
      rw [stepsInOne_eq, hHalf]
      omega
    rw [hWhole]
    push_cast
    rfl
  have hPart :
      (1 / 2 - 1 / 2 ^ 54) * (2 ^ 54 * b : ℚ) = 2 ^ 53 * b - b := by
    ring
  rw [abs_exact hFinite, div_eq_iff stepsInOne_ne_zero, hOne, hPart,
    hHalf, eq_sub_iff_add_eq]
  exact hNatural _ b

/- The same in steps. -/
theorem carriesOver_iff
    (hFinite : x.isFinite = true) :
    CarriesOver x.exact ↔
      x.steps.natAbs + 2 ^ 1020 = stepsInHalf ∨
        ∃ c, x.steps.natAbs = c * stepsInOne ∧
          ¬ (2 ^ 52 ≤ c → c < 2 ^ 53 → 2 ∣ c) := by
  constructor
  · intro hCarries
    cases hCarries with
    | belowHalf hNumber =>
        exact .inl ((exact_belowHalf_iff hFinite).mp hNumber)
    | odd a hNumber hOdd hLeast hMost =>
        have hSteps := (exact_eq_int_iff hFinite a).mp hNumber
        refine .inr ⟨a.natAbs, ?_, fun hEven => hOdd ?_⟩
        · rw [hSteps, Int.natAbs_mul, Int.natAbs_natCast]
        · exact Int.dvd_natAbs.mp
            (Int.natCast_dvd_natCast.mpr (hEven hLeast hMost))
  · rintro (hSteps | ⟨c, hSteps, hOdd⟩)
    · exact .belowHalf ((exact_belowHalf_iff hFinite).mpr hSteps)
    · rw [Classical.not_imp, Classical.not_imp] at hOdd
      rcases hOdd with ⟨hLeast, hMost, hOdd⟩
      have hNumber :
          x.exact = ((signed x.isNegative c : Int) : ℚ) := by
        rw [exact_eq_int_iff hFinite, ← signed_mul, ← hSteps,
          signed_isNegative hFinite]
      refine .odd _ hNumber (fun hEven => hOdd ?_) ?_ ?_
      · have hSize := Int.natAbs_dvd_natAbs.mpr hEven
        rwa [natAbs_signed] at hSize
      · rwa [natAbs_signed]
      · rwa [natAbs_signed]

/- An odd integer that is carried over has its 53 bits. -/
theorem log2_of_carried
    {n c : Nat}
    (hc : n = c * stepsInOne)
    (hOdd : ¬ (2 ^ 52 ≤ c → c < 2 ^ 53 → 2 ∣ c)) :
    1126 ≤ n.log2 := by
  have hMany : 2 ^ 52 ≤ c := by
    by_contra hFew
    exact hOdd fun hMany => absurd hMany hFew
  have hSome : c ≠ 0 := by
    rintro rfl
    exact absurd hMany (by decide)
  have hLog := (Nat.le_log2 hSome).mpr hMany
  rw [hc, stepsInOne, log2_mul_two_pow hSome]
  omega

/- The whole part of the sum is right where nothing is carried. -/
theorem nearestWhole_half_iff
    (hFinite : x.isFinite = true) :
    nearestWhole (x.steps.natAbs + stepsInHalf) / stepsInOne =
        (x.steps.natAbs + stepsInHalf) / stepsInOne ↔
      ¬ CarriesOver x.exact := by
  have hDivides := spacing_dvd_steps hFinite
  rw [carriesOver_iff hFinite]
  generalize x.steps.natAbs = n at hDivides ⊢
  rcases Nat.lt_or_ge n.log2 1126 with hFew | hMany
  · have hNone :
        ¬ ∃ c, n = c * stepsInOne ∧
          ¬ (2 ^ 52 ≤ c → c < 2 ^ 53 → 2 ∣ c) := by
      rintro ⟨c, hc, hOdd⟩
      exact absurd (log2_of_carried hc hOdd) (Nat.not_le.mpr hFew)
    rw [or_iff_left hNone]
    rcases Nat.lt_or_ge n stepsInHalf with hSmall | hLeast
    · rw [nearestWhole_half_of_lt hSmall,
        add_eq_half_iff hDivides hSmall, Classical.not_not]
    · refine iff_of_true
        (nearestWhole_half_of_ge hDivides hLeast hFew) fun hSum => ?_
      rw [← hSum] at hLeast
      exact absurd hLeast
        (Nat.not_le.mpr
          (Nat.lt_add_of_pos_right (pow_pos two_pos 1020)))
  · rcases exists_integer_of_many hDivides hMany with
      ⟨c, hc, hBits⟩
    have hNone : ¬ n + 2 ^ 1020 = stepsInHalf := by
      intro hSum
      have hOne := stepsInOne_eq
      have hLarge : 1 * stepsInOne ≤ c * stepsInOne :=
        Nat.mul_le_mul_right _ (by omega)
      have hSmall : n ≤ stepsInHalf :=
        hSum ▸ Nat.le_add_right n (2 ^ 1020)
      have hPositive := stepsInHalf_pos
      omega
    rw [hc] at hDivides
    rw [or_iff_right hNone, hc,
      nearestWhole_half_iff_isSettled hDivides,
      isSettled_iff hDivides]
    constructor
    · rintro hEven ⟨d, hd, hOdd⟩
      rw [Nat.eq_of_mul_eq_mul_right stepsInOne_pos hd] at hEven
      exact hOdd hEven
    · intro hEven
      by_contra hOdd
      exact hEven ⟨c, rfl, hOdd⟩

------------------------------------------------------------
-- Rounding Half Away
------------------------------------------------------------

theorem signed_inj
    (s : Bool)
    {m n : Nat} :
    signed s m = signed s n ↔ m = n := by
  constructor
  · intro hSame
    have hSize := congrArg Int.natAbs hSame
    rwa [natAbs_signed, natAbs_signed] at hSize
  · rintro rfl
    rfl

theorem isNearestAway_signed
    (hFinite : x.isFinite = true) :
    IsNearestAway x.exact
      (signed x.isNegative
        ((x.steps.natAbs + stepsInHalf) / stepsInOne)) := by
  have hNearest := isNearestAway_div x.steps.natAbs
  rw [exact_eq_signed hFinite]
  cases x.isNegative with
  | false =>
      have hSame : ∀ n, signed false n = n := fun _ => rfl
      rw [hSame, hSame, Int.cast_natCast]
      exact hNearest
  | true =>
      have hSame : ∀ n, signed true n = -n := fun _ => rfl
      rw [hSame, hSame, Int.cast_neg, Int.cast_natCast, neg_div]
      exact hNearest.neg

/- Rounding half away finds the nearest integer, or carries over. -/
theorem isNearestAway_halfAway_iff
    (hFinite : x.isFinite = true) :
    IsNearestAway x.exact x.halfAway ↔ ¬ CarriesOver x.exact := by
  have hNearest := isNearestAway_signed hFinite
  rw [← nearestWhole_half_iff hFinite, ← signed_inj x.isNegative,
    ← halfAway_eq hFinite]
  constructor
  · intro hHere
    exact hHere.unique hNearest
  · intro hSame
    rw [hSame]
    exact hNearest

theorem halfAway_neg
    (x : Double) :
    (-x).halfAway = -x.halfAway := by
  by_cases hFinite : x.isFinite = true
  · have hSign : (-x).isNegative = !x.isNegative := by
      cases x with
      | nan => cases hFinite
      | infinite s => rfl
      | finite s m e hCanonical => rfl
    have hFinite' := (isFinite_neg x).trans hFinite
    rw [halfAway_eq hFinite', halfAway_eq hFinite, steps_neg,
      Int.natAbs_neg, hSign, signed_not]
  · have hFinite' : ¬ (-x).isFinite = true :=
      (isFinite_neg x) ▸ hFinite
    rw [halfAway, halfAway, if_neg hFinite', if_neg hFinite,
      Int.neg_zero]

end Double

namespace Value

open Double

/-
  A finite double is rounded to an integer, and its negative to the
  negative of that.  The integer is the nearest one, halves going
  away from zero, unless the sum with one half is carried over; in
  particular an integer is kept unless this is so.
-/
theorem roundedHalfAway_nearest_iff
    {x : Double}
    (hFinite : x.isFinite = true) :
    ∃ n, (Value.double x).roundedHalfAway = .ok n ∧
      (Value.double (-x)).roundedHalfAway = .ok (-n) ∧
      (IsNearestAway x.exact n ↔ ¬ CarriesOver x.exact) ∧
      ∀ a : Int, x.exact = a →
        (n = a ↔ ¬ CarriesOver x.exact) := by
  have hNearest := isNearestAway_halfAway_iff hFinite
  refine ⟨x.halfAway, rfl, ?_, hNearest, fun a ha => ?_⟩
  · rw [← halfAway_neg]
    rfl
  · rw [← hNearest, ha, isNearestAway_int_iff]

/- Two and a half, of both signs. -/
theorem roundedHalfAway_nearest_iff_tie :
    (5 / 2 : Double).isFinite = true ∧
      (5 / 2 : Double).exact = 5 / 2 ∧
      (Value.double (5 / 2)).roundedHalfAway = .ok 3 ∧
      (Value.double (-(5 / 2))).roundedHalfAway = .ok (-3) ∧
      IsNearestAway (5 / 2) 3 := by
  have hFinite : (5 / 2 : Double).isFinite = true := by
    decide +kernel
  have hDouble :
      (5 / 2 : Double) =
        .finite false 5629499534213120 (-51) (by decide) := by
    decide +kernel
  have hExact : (5 / 2 : Double).exact = 5 / 2 := by
    rw [hDouble, exact, signed]
    norm_num
  have hKept : ¬ CarriesOver (5 / 2) := by
    intro hCarries
    cases hCarries with
    | belowHalf hNumber =>
        norm_num at hNumber
    | odd a hNumber hOdd hLeast hMost =>
        have hTwice : (5 : ℚ) = (2 * a : Int) := by
          push_cast
          linarith
        have hWhole : 5 = 2 * a := by exact_mod_cast hTwice
        omega
  rcases roundedHalfAway_nearest_iff hFinite with
    ⟨n, hRounded, hNegative, hNearest, -⟩
  have hThree :
      (Value.double (5 / 2)).roundedHalfAway = .ok 3 := by
    decide +kernel
  rw [hThree] at hRounded
  cases hRounded
  rw [hExact] at hNearest
  exact ⟨hFinite, hExact, hThree, hNegative, hNearest.mpr hKept⟩

/- The last double below one half. -/
def belowHalf :
    Double :=
  .finite false 9007199254740991 (-54) (by decide)

/- It is rounded to one, though zero is nearer. -/
theorem roundedHalfAway_belowHalf :
    (Value.double belowHalf).roundedHalfAway = .ok 1 ∧
      IsNearestAway belowHalf.exact 0 ∧
      ¬ IsNearestAway belowHalf.exact 1 := by
  have hExact : belowHalf.exact = 1 / 2 - 1 / 2 ^ 54 := by
    rw [belowHalf, exact, signed]
    norm_num
  have hZero : IsNearestAway belowHalf.exact 0 := by
    rw [hExact]
    constructor
    · norm_num
    · norm_num
  exact ⟨by decide +kernel, hZero, hZero.not_succ⟩

end Value

end LabelPress

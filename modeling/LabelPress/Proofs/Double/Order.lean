import LabelPress.Double.Basic
import Mathlib.Algebra.Order.Ring.Int
import Mathlib.Order.Compare
import Mathlib.Tactic.Ring

/-
  The order of doubles.

  Every finite double is a whole number of steps of the least
  positive one, and comparing two defined doubles is comparing
  their steps.  So the order is a linear one, in which the zeros
  of both signs are alike.

  Main declarations:
    * `Double.steps`
    * `Double.compare?_eq_steps`
    * `Double.lt_iff_steps`, `Double.le_iff_steps`
-/

namespace LabelPress

namespace Double

------------------------------------------------------------
-- Steps
------------------------------------------------------------

/-
  The number of steps from zero to an infinite double, which
  lies beyond what a finite one can reach.
-/
def infiniteSteps :
    Nat :=
  scaleUp 9007199254740992 (971 + 1074)

/- The number of steps from zero to a double. -/
def steps :
    Double → Int
  | .nan => 0
  | .infinite s => signed s infiniteSteps
  | .finite s m e _ => signed s (scaleUp m (e + 1074))

theorem scaleUp_eq
    (n : Nat)
    (e : Int) :
    scaleUp n e = n * 2 ^ e.toNat :=
  Nat.shiftLeft_eq n e.toNat

theorem scaleUp_pos
    {n : Nat}
    (hn : n ≠ 0)
    (e : Int) :
    0 < scaleUp n e := by
  rw [scaleUp_eq]
  exact Nat.mul_pos (Nat.pos_of_ne_zero hn) (Nat.two_pow_pos _)

theorem signed_mul
    (s : Bool)
    (n k : Nat) :
    signed s (n * k) = signed s n * k := by
  cases s with
  | false => exact Nat.cast_mul n k
  | true =>
      change -((n * k : Nat) : Int) = -(n : Int) * k
      rw [Nat.cast_mul, Int.neg_mul]

theorem natAbs_signed
    (s : Bool)
    (n : Nat) :
    (signed s n).natAbs = n := by
  cases s with
  | false => exact Int.natAbs_natCast n
  | true => exact (Int.natAbs_neg _).trans (Int.natAbs_natCast n)

/- A finite double has fewer steps than an infinite one. -/
theorem scaleUp_lt_infiniteSteps
    {m : Nat}
    {e : Int}
    (hCanonical : Canonical m e) :
    scaleUp m (e + 1074) < infiniteSteps := by
  rcases hCanonical with ⟨hMantissa, hLow, hHigh, _⟩
  have hExponent :
      (e + 1074).toNat ≤ (971 + 1074 : Int).toNat := by
    omega
  rw [infiniteSteps, scaleUp_eq, scaleUp_eq]
  calc
    m * 2 ^ (e + 1074).toNat ≤
        m * 2 ^ (971 + 1074 : Int).toNat :=
      Nat.mul_le_mul_left m
        (Nat.pow_le_pow_right Nat.two_pos hExponent)
    _ < 9007199254740992 * 2 ^ (971 + 1074 : Int).toNat :=
      Nat.mul_lt_mul_of_pos_right hMantissa
        (Nat.two_pow_pos _)

theorem signed_lt
    (s : Bool)
    {n k : Nat}
    (hLess : n < k) :
    -(k : Int) < signed s n ∧ signed s n < k := by
  cases s with
  | false =>
      change -(k : Int) < n ∧ (n : Int) < k
      omega
  | true =>
      change -(k : Int) < -(n : Int) ∧ -(n : Int) < k
      omega

/- A common positive factor makes no difference to an order. -/
theorem compare_mul
    (i j : Int)
    {k : Nat}
    (hk : 0 < k) :
    compare (i * k) (j * k) = compare i j := by
  have hPositive : (0 : Int) < k := by exact_mod_cast hk
  rw [← cmp_eq_compare, ← cmp_eq_compare,
    cmp_mul_pos_right hPositive]

theorem compare_signed_mul
    (s t : Bool)
    (m n k : Nat)
    (hk : 0 < k) :
    compare (signed s (m * k)) (signed t (n * k)) =
      compare (signed s m) (signed t n) := by
  rw [signed_mul, signed_mul, compare_mul _ _ hk]

/- Steps are parts of a lower power of two, scaled up. -/
theorem scaleUp_steps
    (m : Nat)
    {e low : Int}
    (hLow : low ≤ e)
    (hLeast : -1074 ≤ low) :
    scaleUp m (e + 1074) =
      scaleUp m (e - low) * 2 ^ (low + 1074).toNat := by
  have hSum :
      (e + 1074).toNat =
        (e - low).toNat + (low + 1074).toNat := by
    omega
  rw [scaleUp_eq, scaleUp_eq, hSum, Nat.pow_add,
    Nat.mul_assoc]

/- An infinite double lies beyond a number of fewer steps. -/
theorem compare_infinite
    (s : Bool)
    {i : Int}
    (hLow : -(infiniteSteps : Int) < i)
    (hHigh : i < infiniteSteps) :
    compare (signed s infiniteSteps) i =
      if s then .lt else .gt := by
  cases s with
  | false => exact compare_gt_iff_gt.mpr hHigh
  | true => exact compare_lt_iff_lt.mpr hLow

theorem infiniteSteps_pos :
    0 < infiniteSteps := by
  rw [infiniteSteps, scaleUp_eq]
  exact Nat.mul_pos (by decide) (Nat.two_pow_pos _)

theorem compare_infinite_infinite
    (s t : Bool) :
    compare (signed s infiniteSteps)
        (signed t infiniteSteps) =
      if s = t then .eq else if s then .lt else .gt := by
  have hOrder :
      signed true infiniteSteps <
        signed false infiniteSteps := by
    have hPositive := infiniteSteps_pos
    change -(infiniteSteps : Int) < infiniteSteps
    omega
  cases s with
  | false =>
      cases t with
      | false => exact compare_eq_iff_eq.mpr rfl
      | true => exact compare_gt_iff_gt.mpr hOrder
  | true =>
      cases t with
      | false => exact compare_lt_iff_lt.mpr hOrder
      | true => exact compare_eq_iff_eq.mpr rfl

/- Defined doubles compare as their steps do. -/
theorem compare?_eq_steps
    {x y : Double}
    (hx : x.isNaN = false)
    (hy : y.isNaN = false) :
    compare? x y = some (compare x.steps y.steps) := by
  cases x with
  | nan => simp [isNaN] at hx
  | infinite s =>
      cases y with
      | nan => simp [isNaN] at hy
      | infinite t =>
          simp only [compare?, steps]
          rw [compare_infinite_infinite s t]
      | finite t n f hn =>
          rcases signed_lt t (scaleUp_lt_infiniteSteps hn) with
            ⟨hLow, hHigh⟩
          simp only [compare?, steps]
          rw [compare_infinite s hLow hHigh]
  | finite s m e hm =>
      cases y with
      | nan => simp [isNaN] at hy
      | infinite t =>
          rcases signed_lt s (scaleUp_lt_infiniteSteps hm) with
            ⟨hLow, hHigh⟩
          have hOrder :
              compare (signed s (scaleUp m (e + 1074)))
                  (signed t infiniteSteps) =
                if t then .gt else .lt := by
            cases t with
            | false => exact compare_lt_iff_lt.mpr hHigh
            | true => exact compare_gt_iff_gt.mpr hLow
          simp only [compare?, steps]
          rw [hOrder]
      | finite t n f hn =>
          have hLeast : -1074 ≤ min e f :=
            le_min hm.2.1 hn.2.1
          simp only [compare?, steps]
          rw [scaleUp_steps m (min_le_left e f) hLeast,
            scaleUp_steps n (min_le_right e f) hLeast,
            compare_signed_mul s t _ _ _ (Nat.two_pow_pos _)]

------------------------------------------------------------
-- Order
------------------------------------------------------------

variable {x y : Double}

theorem lt_iff_steps
    (hx : x.isNaN = false)
    (hy : y.isNaN = false) :
    lt x y = true ↔ x.steps < y.steps := by
  rw [lt, compare?_eq_steps hx hy, beq_iff_eq,
    Option.some.injEq, compare_lt_iff_lt]

theorem le_iff_steps
    (hx : x.isNaN = false)
    (hy : y.isNaN = false) :
    le x y = true ↔ x.steps ≤ y.steps := by
  rw [le, compare?_eq_steps hx hy, Bool.or_eq_true,
    beq_iff_eq, beq_iff_eq, Option.some.injEq,
    Option.some.injEq, compare_lt_iff_lt, compare_eq_iff_eq,
    le_iff_lt_or_eq]

end Double

end LabelPress

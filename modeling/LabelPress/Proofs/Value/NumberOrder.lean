import LabelPress.Proofs.Double.Order
import LabelPress.Value.Number
import Mathlib.Order.ConditionallyCompleteLattice.Basic
import Mathlib.Data.Int.ConditionallyCompleteOrder
import Mathlib.Order.WithBotTop

/-
  The order of numbers.

  Integers and doubles are compared by what they exactly are: a
  number of steps of the least positive double, infinite doubles
  being beyond all such numbers.  The undefined number has no
  place in this order.

  Main declarations:
    * `Double.size?`, `Value.Numeric.size?`
    * `Double.compareInt?_eq_size`, `Double.compare?_eq_size`
    * `Value.Numeric.compare?_eq_size`
    * `Value.size?`, `Value.IsBelow`
-/

namespace LabelPress

/- An integer among the sizes compares as it does elsewhere. -/
theorem compare_eint
    (i j : Int) :
    compare (i : EInt) (j : EInt) = compare i j := by
  rw [← cmp_eq_compare, ← cmp_eq_compare,
    WithBotTop.coe_strictMono.cmp_map_eq]

theorem compare_bot_eint
    (i : Int) :
    compare (⊥ : EInt) (i : EInt) = .lt :=
  compare_lt_iff_lt.mpr (WithBot.bot_lt_coe _)

theorem compare_eint_bot
    (i : Int) :
    compare (i : EInt) (⊥ : EInt) = .gt :=
  compare_gt_iff_gt.mpr (WithBot.bot_lt_coe _)

theorem compare_eint_top
    (i : Int) :
    compare (i : EInt) (⊤ : EInt) = .lt :=
  compare_lt_iff_lt.mpr
    (WithBot.coe_lt_coe.mpr (WithTop.coe_lt_top i))

theorem compare_top_eint
    (i : Int) :
    compare (⊤ : EInt) (i : EInt) = .gt :=
  compare_gt_iff_gt.mpr
    (WithBot.coe_lt_coe.mpr (WithTop.coe_lt_top i))

------------------------------------------------------------
-- Sizes of Doubles
------------------------------------------------------------

namespace Double

/- The steps to a double, beyond all numbers if it is infinite. -/
def size? :
    Double → Option EInt
  | .nan => none
  | .infinite s => some (if s then ⊥ else ⊤)
  | .finite s m e _ =>
      some ((signed s (scaleUp m (e + 1074)) : Int) : EInt)

/- The number of steps to one. -/
def unitSteps :
    Nat :=
  scaleUp 1 (0 + 1074)

theorem unitSteps_pos :
    0 < unitSteps := by
  rw [unitSteps, scaleUp_eq]
  exact Nat.mul_pos Nat.one_pos (Nat.two_pow_pos _)

/- The number of steps to an integer. -/
def stepsOfInt
    (n : Int) :
    Int :=
  n * unitSteps

/-
  A double and an integer compare as their sizes.  The exponent
  of the double decides which of the two is scaled up for it.
-/
theorem compareInt?_eq_size
    (x : Double)
    (n : Int) :
    x.compareInt? n =
      x.size?.map fun a => compare a (stepsOfInt n : EInt) := by
  cases x with
  | nan => rfl
  | infinite s =>
      cases s with
      | true =>
          exact congrArg some (compare_bot_eint _).symm
      | false =>
          exact congrArg some (compare_top_eint _).symm
  | finite s m e hCanonical =>
      have hLeast : -1074 ≤ min e 0 :=
        le_min hCanonical.2.1 (by decide)
      have hRaised : (e - min e 0).toNat = e.toNat := by
        omega
      have hLowered : (0 - min e 0).toNat = (-e).toNat := by
        omega
      rw [size?, Option.map_some, compare_eint, stepsOfInt, unitSteps,
        scaleUp_steps m (min_le_left e 0) hLeast,
        scaleUp_steps 1 (min_le_right e 0) hLeast, signed_mul,
        Nat.cast_mul, ← Int.mul_assoc,
        compare_mul _ _ (Nat.two_pow_pos _)]
      rw [compareInt?, scaleUp, scaleUp, scaleUp, scaleUp,
        hRaised, hLowered]

/- Two doubles compare as their sizes. -/
theorem compare?_eq_size
    (x y : Double) :
    compare? x y =
      x.size?.bind fun a => y.size?.map fun b => compare a b := by
  have hSelf (a : EInt) : compare a a = .eq :=
    compare_eq_iff_eq.mpr rfl
  cases x with
  | nan => rfl
  | infinite s =>
      cases y with
      | nan => rfl
      | infinite t =>
          cases s with
          | true =>
              cases t with
              | true => exact congrArg some (hSelf ⊥).symm
              | false =>
                  exact congrArg some
                    (compare_lt_iff_lt.mpr bot_lt_top).symm
          | false =>
              cases t with
              | true =>
                  exact congrArg some
                    (compare_gt_iff_gt.mpr bot_lt_top).symm
              | false => exact congrArg some (hSelf ⊤).symm
      | finite t n f hn =>
          cases s with
          | true => exact congrArg some (compare_bot_eint _).symm
          | false => exact congrArg some (compare_top_eint _).symm
  | finite s m e hm =>
      cases y with
      | nan => rfl
      | infinite t =>
          cases t with
          | true => exact congrArg some (compare_eint_bot _).symm
          | false => exact congrArg some (compare_eint_top _).symm
      | finite t n f hn =>
          rw [compare?_eq_steps rfl rfl]
          exact congrArg some (compare_eint _ _).symm

end Double

------------------------------------------------------------
-- Sizes of Numbers
------------------------------------------------------------

namespace Value

/- The exact size of a number, unless it is undefined. -/
def Numeric.size? :
    Numeric → Option EInt
  | .int n => some (Double.stepsOfInt n : EInt)
  | .double x => x.size?

/- Numbers of both kinds compare as their sizes. -/
theorem Numeric.compare?_eq_size
    (x y : Numeric) :
    x.compare? y =
      x.size?.bind fun a => y.size?.map fun b => compare a b := by
  cases x with
  | int m =>
      cases y with
      | int n =>
          have hSame :
              compare m n =
                compare (Double.stepsOfInt m : EInt)
                  (Double.stepsOfInt n) := by
            rw [compare_eint, Double.stepsOfInt,
              Double.stepsOfInt,
              Double.compare_mul _ _ Double.unitSteps_pos]
          exact congrArg some hSame
      | double y =>
          rw [compare?, Double.compareInt?_eq_size, size?, size?]
          cases y.size? with
          | none => rfl
          | some b => exact congrArg some Std.OrientedOrd.eq_swap.symm
  | double x =>
      cases y with
      | int n =>
          rw [compare?, Double.compareInt?_eq_size, size?, size?]
          cases x.size? with
          | none => rfl
          | some a => rfl
      | double y => exact Double.compare?_eq_size x y

section Order

variable {x y : Numeric}

theorem Numeric.compare?_eq_lt_iff :
    x.compare? y = some .lt ↔
      ∃ a ∈ x.size?, ∃ b ∈ y.size?, a < b := by
  simp only [Numeric.compare?_eq_size, Option.bind_eq_some_iff,
    Option.map_eq_some_iff, compare_lt_iff_lt, Option.mem_def]

theorem Numeric.compare?_eq_gt_iff :
    x.compare? y = some .gt ↔
      ∃ a ∈ x.size?, ∃ b ∈ y.size?, b < a := by
  simp only [Numeric.compare?_eq_size, Option.bind_eq_some_iff,
    Option.map_eq_some_iff, compare_gt_iff_gt, Option.mem_def]

end Order

------------------------------------------------------------
-- Values
------------------------------------------------------------

/- The exact size of a value, if it is a defined number. -/
def size?
    (v : Value) :
    Option EInt :=
  v.numeric?.bind Numeric.size?

/- Whether a value is a number below another one. -/
def IsBelow
    (v w : Value) :
    Prop :=
  ∃ a ∈ v.size?, ∃ b ∈ w.size?, a < b

section Numbers

variable {v w : Value}
variable {x : Numeric}

theorem isBelow_iff_compare?
    (hx : v.numeric? = some x) :
    v.IsBelow w ↔
      ∃ y, w.numeric? = some y ∧ x.compare? y = some .lt := by
  simp only [IsBelow, size?, hx, Option.bind_some,
    Numeric.compare?_eq_lt_iff, Option.mem_def,
    Option.bind_eq_some_iff]
  constructor
  · rintro ⟨a, ha, b, ⟨y, hy, hb⟩, hLess⟩
    exact ⟨y, hy, a, ha, b, hb, hLess⟩
  · rintro ⟨y, hy, a, ha, b, hb, hLess⟩
    exact ⟨a, ha, b, ⟨y, hy, hb⟩, hLess⟩

theorem isBelow_iff_compare?_swap
    (hx : v.numeric? = some x) :
    w.IsBelow v ↔
      ∃ y, w.numeric? = some y ∧ x.compare? y = some .gt := by
  simp only [IsBelow, size?, hx, Option.bind_some,
    Numeric.compare?_eq_gt_iff, Option.mem_def,
    Option.bind_eq_some_iff]
  constructor
  · rintro ⟨b, ⟨y, hy, hb⟩, a, ha, hLess⟩
    exact ⟨y, hy, a, ha, b, hb, hLess⟩
  · rintro ⟨y, hy, a, ha, b, hb, hLess⟩
    exact ⟨b, ⟨y, hy, hb⟩, a, ha, hLess⟩

end Numbers

end Value

end LabelPress

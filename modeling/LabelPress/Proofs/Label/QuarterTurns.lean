import LabelPress.Label.Coercion
import LabelPress.Proofs.Double.Quotients

/-
  Quarter turns of whole degrees.

  A number of degrees is divided by ninety and rounded to quarter
  turns, and both steps round to nearest, ties to even.  Up to 53
  bits the quotient of degrees that are no tie is never rounded
  onto one, so that the turns are those nearest to the exact
  quotient.  An even number of quarter turns is a multiple of half
  a turn, and a full turn more is four of them.

  Main declarations:
    * `IsNearestTurn`, with `IsNearestTurn.add_turn`
    * `exists_nearestQuarter`
    * `quarterTurn_periodic`
-/

namespace LabelPress

------------------------------------------------------------
-- Quarter Turns
------------------------------------------------------------

theorem nearestQuarter_mem
    (degrees : Double) :
    nearestQuarter degrees ∈ ([0, 90, 180, 270] : List Int) := by
  unfold nearestQuarter
  split_ifs with hFinite
  · generalize (degrees / 90).nearestEven?.getD 0 = turns
    have hCases :
        turns % 4 = 0 ∨ turns % 4 = 1 ∨ turns % 4 = 2 ∨
          turns % 4 = 3 := by
      omega
    rcases hCases with hTurn | hTurn | hTurn | hTurn
    all_goals
      rw [hTurn]
      decide
  · decide

/-
  Whether some quarter turns are the ones nearest to a number of
  degrees, an even number of them if there are two.
-/
structure IsNearestTurn
    (degrees turns : Int) :
    Prop where
  near : (degrees - 90 * turns).natAbs ≤ 45
  even : (degrees - 90 * turns).natAbs = 45 → 2 ∣ turns

section Turns

variable {d t u : Int}

theorem IsNearestTurn.unique
    (ht : IsNearestTurn d t)
    (hu : IsNearestTurn d u) :
    t = u := by
  rcases ht with ⟨hNear, hEven⟩
  rcases hu with ⟨hNear', hEven'⟩
  omega

/- A full turn of degrees is four quarter turns. -/
theorem IsNearestTurn.add_turn
    (ht : IsNearestTurn d t) :
    IsNearestTurn (d + 360) (t + 4) := by
  rcases ht with ⟨hNear, hEven⟩
  refine ⟨?_, fun hTie => ?_⟩
  · omega
  · omega

theorem isNearestTurn_signed
    (d : Int) :
    IsNearestTurn d
      (Double.signed (decide (d < 0)) (divNearest d.natAbs 90)) := by
  have hPositive : 0 < 90 := by decide
  have hNear := Double.divNearest_near d.natAbs hPositive
  have hEven := Double.divNearest_even d.natAbs hPositive
  generalize divNearest d.natAbs 90 = n at hNear hEven ⊢
  by_cases hNegative : d < 0
  · rw [decide_eq_true hNegative, Double.signed, if_pos rfl]
    refine ⟨?_, fun hTie => ?_⟩
    · omega
    · omega
  · rw [decide_eq_false hNegative, Double.signed,
      if_neg Bool.false_ne_true]
    refine ⟨?_, fun hTie => ?_⟩
    · omega
    · omega

end Turns

------------------------------------------------------------
-- Whole Degrees
------------------------------------------------------------

variable {d : Int}

/- Whole degrees of 53 bits come to the nearest quarter turns. -/
theorem exists_nearestQuarter
    {x : Double}
    (hx : x.IsInteger d)
    (hBits : d.natAbs ≤ 2 ^ 53) :
    ∃ turns, IsNearestTurn d turns ∧
      nearestQuarter x = turns % 4 * 90 := by
  have hNinety : (90 : Double).IsInteger (2 * 45 : Nat) := by
    decide +kernel
  -- the doubles around the quotient are at most 1/64 apart
  have hSize : d.natAbs < 2 * 45 * 2 ^ (53 - 6) := by omega
  have hTurns :=
    hx.nearestEven?_div hNinety (by decide) (by decide) (by decide)
      hSize
  refine ⟨_, isNearestTurn_signed d, ?_⟩
  rw [nearestQuarter, if_pos hx.finite, hTurns]
  rfl

theorem exists_quarterTurn
    (hBits : d.natAbs ≤ 2 ^ 53) :
    ∃ x turns, IsNearestTurn d turns ∧
      nearestQuarter x = turns % 4 * 90 ∧
      quarterTurn (.int d) = .ok (nearestQuarter x) := by
  have hInRange : 2 ^ 53 < Double.integerBound := by decide +kernel
  rcases (Double.exists_ofInt?_iff (n := d)).mpr (by omega) with
    ⟨x, hRead⟩
  have hInteger :=
    Double.isInteger_of_ofInt? hRead
      (Double.spacing_dvd_of_le hBits)
  rcases exists_nearestQuarter hInteger hBits with
    ⟨turns, hNearest, hQuarter⟩
  refine ⟨x, turns, hNearest, hQuarter, ?_⟩
  have hDegrees : (Value.int d).doubleOr 0 = .ok x := by
    rw [Value.doubleOr, Value.toDouble, Value.doubleOfInt, hRead]
  rw [quarterTurn, hDegrees]
  rfl

/-
  Whole degrees snap to the quarter turn within 45 degrees of them
  on the circle, on a tie to one that is a multiple of half a turn,
  and a full turn more snaps to the same one.
-/
theorem quarterTurn_periodic
    (hSize : d.natAbs ≤ 2 ^ 53 - 360) :
    ∃ r, quarterTurn (.int d) = .ok r ∧
      r ∈ ([0, 90, 180, 270] : List Int) ∧
      (∃ turns, (d - (r + 360 * turns)).natAbs ≤ 45) ∧
      (d % 90 = 45 → 180 ∣ r) ∧
      quarterTurn (.int (d + 360)) = .ok r := by
  rcases exists_quarterTurn (d := d) (by omega) with
    ⟨x, t, hNearest, hTurn, hSnapped⟩
  rcases exists_quarterTurn (d := d + 360) (by omega) with
    ⟨y, u, hNearest', hTurn', hSnapped'⟩
  have hSame : u = t + 4 := hNearest'.unique hNearest.add_turn
  rcases hNearest with ⟨hNear, hEven⟩
  refine ⟨nearestQuarter x, hSnapped, nearestQuarter_mem x,
    ⟨t / 4, ?_⟩, fun hTie => ?_, ?_⟩
  · rw [hTurn]
    omega
  · have hTwo := hEven (by omega)
    rw [hTurn]
    omega
  · rw [hSnapped', hTurn', hTurn, hSame, Int.add_emod_right]

/- A tie below zero, which snaps to half a turn. -/
theorem quarterTurn_periodic_below :
    (-225 : Int).natAbs ≤ 2 ^ 53 - 360 ∧
      quarterTurn (.int (-225)) = .ok 180 ∧
      quarterTurn (.int 135) = .ok 180 := by
  have hSize : (-225 : Int).natAbs ≤ 2 ^ 53 - 360 := by decide
  rcases quarterTurn_periodic hSize with
    ⟨r, hSnapped, hMember, ⟨turns, hNear⟩, hTie, hNext⟩
  have hHalf := hTie (by decide)
  have hTurn : r = 180 := by
    simp only [List.mem_cons, List.not_mem_nil, or_false] at hMember
    omega
  rw [hTurn] at hSnapped hNext
  exact ⟨hSize, hSnapped, hNext⟩

end LabelPress

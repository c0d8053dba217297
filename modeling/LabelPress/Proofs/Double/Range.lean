import LabelPress.Proofs.Double.Order
import LabelPress.Double.Rounding

/-
  Integers in the range of doubles.

  An integer is rounded to a finite double when its magnitude is
  below 2^1024 - 2^970, which lies halfway between the largest
  double and the next power of two.  The whole part of a finite
  double is such an integer.

  Main declarations:
    * `Double.integerBound`
    * `Double.exists_ofInt?_iff`
    * `Double.exists_ofInt?_truncate?`
-/

namespace LabelPress

namespace Double

/- The least magnitude of integers beyond the doubles. -/
def integerBound :
    Nat :=
  scaleUp 18014398509481983 970

------------------------------------------------------------
-- Rounded Mantissas
------------------------------------------------------------

section Mantissas

variable {s : Bool}
variable {num den m : Nat}
variable {e : Int}

/- A mantissa of 53 bits fits unless its exponent is too large. -/
theorem pack_ne_infinite_iff
    (hLow : 4503599627370496 ≤ m)
    (hHigh : m ≤ 9007199254740992)
    (hLeast : -1074 ≤ e) :
    (∀ t, pack s m e ≠ .infinite t) ↔
      e ≤ 970 ∨ e = 971 ∧ m < 9007199254740992 := by
  unfold pack
  split_ifs with hFits hCarried
  · refine iff_of_true (fun t hSame => by cases hSame) ?_
    rcases hFits with ⟨hMantissa, _, hExponent, _⟩
    omega
  · refine iff_of_true (fun t hSame => by cases hSame) ?_
    rcases hCarried with ⟨_, _, _, hExponent, _⟩
    omega
  · refine iff_of_false (fun hNone => hNone s rfl) ?_
    intro hSmall
    rcases Nat.lt_or_ge m 9007199254740992 with hLess | hFull
    · apply hFits
      refine ⟨hLess, hLeast, ?_, .inl hLow⟩
      omega
    · apply hCarried
      refine ⟨by omega, by decide, by omega, by omega, .inl ?_⟩
      exact le_refl _

theorem divNearest_cases
    (num den : Nat) :
    divNearest num den = num / den ∨
      divNearest num den = num / den + 1 := by
  unfold divNearest
  dsimp only
  have hParity := Nat.mod_two_eq_zero_or_one (num / den)
  split_ifs with hBelow hAbove
  · exact .inl rfl
  · exact .inr rfl
  · omega

/-
  A quotient is rounded below an even number when it is less than
  one half below it.
-/
theorem divNearest_lt_iff
    (hDen : 0 < den)
    (hEven : m % 2 = 0) :
    divNearest num den < m ↔
      2 * num + den < 2 * (m * den) := by
  have hSplit := Nat.div_add_mod num den
  have hRest := Nat.mod_lt num hDen
  rcases Nat.lt_trichotomy (num / den + 1) m with
    hFar | hNext | hPast
  · have hGap : (num / den + 2) * den ≤ m * den :=
      Nat.mul_le_mul_right den hFar
    rw [Nat.add_mul, Nat.mul_comm (num / den)] at hGap
    refine iff_of_true ?_ (by omega)
    rcases divNearest_cases num den with h | h
    · omega
    · omega
  · rw [← hNext, Nat.add_mul, Nat.mul_comm (num / den)]
    unfold divNearest
    dsimp only
    split_ifs with hBelow hAbove
    · omega
    · omega
    · omega
  · have hBeyond : m * den ≤ num / den * den :=
      Nat.mul_le_mul_right den (by omega)
    rw [Nat.mul_comm (num / den)] at hBeyond
    refine iff_of_false ?_ (by omega)
    rcases divNearest_cases num den with h | h
    · omega
    · omega

end Mantissas

------------------------------------------------------------
-- Integers
------------------------------------------------------------

/- A positive integer by its number of bits. -/
theorem ofRatio_one
    {s : Bool}
    {n : Nat}
    (hn : n ≠ 0) :
    ofRatio s n 1 =
      pack s
        (divNearest (scaleUp n (52 - n.log2))
          (scaleUp 1 (n.log2 - 52)))
        (n.log2 - 52) := by
  have hExponent : exponentOf n 1 = n.log2 - 52 := by
    have hLog : Nat.log2 1 = 0 := by decide
    have hBits : ((n.log2 : Int) - 0 - 52 + 52).toNat = n.log2 := by
      omega
    have hNone :
        (-((n.log2 : Int) - 0 - 52 + 52)).toNat = 0 := by
      omega
    have hLeast := Nat.log2_self_le hn
    unfold exponentOf
    dsimp only
    rw [hLog, Nat.cast_zero, scaleUp_eq, scaleUp_eq, hBits, hNone,
      if_neg (by omega), Int.sub_zero]
  have hLeast : max (-1074) ((n.log2 : Int) - 52) = n.log2 - 52 := by
    omega
  rw [ofRatio, if_neg hn, hExponent]
  dsimp only
  rw [hLeast, Int.neg_sub]

/- The mantissa of a positive integer has 53 bits. -/
theorem mantissa_bounds
    {n : Nat}
    (hn : n ≠ 0) :
    4503599627370496 * scaleUp 1 (n.log2 - 52) ≤
        scaleUp n (52 - n.log2) ∧
      scaleUp n (52 - n.log2) <
        9007199254740992 * scaleUp 1 (n.log2 - 52) := by
  have hBits :
      n.log2 + (52 - n.log2 : Int).toNat =
        52 + (n.log2 - 52 : Int).toNat := by
    omega
  have hSame :
      2 ^ n.log2 * 2 ^ (52 - n.log2 : Int).toNat =
        2 ^ 52 * 2 ^ (n.log2 - 52 : Int).toNat := by
    rw [← Nat.pow_add, ← Nat.pow_add, hBits]
  have hPositive := Nat.two_pow_pos (52 - n.log2 : Int).toNat
  have hLow := Nat.mul_le_mul_right
    (2 ^ (52 - n.log2 : Int).toNat) (Nat.log2_self_le hn)
  have hHigh := Nat.mul_lt_mul_of_pos_right
    (Nat.lt_log2_self (n := n)) hPositive
  rw [Nat.pow_succ, Nat.mul_right_comm] at hHigh
  rw [scaleUp_eq, scaleUp_eq]
  omega

/- Powers of two above the bits of a number are above it. -/
theorem lt_two_pow_of_log2_lt
    {n k : Nat}
    (hBits : n.log2 < k) :
    n < 2 ^ k :=
  Nat.lt_of_lt_of_le Nat.lt_log2_self
    (Nat.pow_le_pow_right Nat.two_pos hBits)

theorem ofRatio_one_ne_infinite_iff
    {s : Bool}
    {n : Nat} :
    (∀ t, ofRatio s n 1 ≠ .infinite t) ↔ n < integerBound := by
  obtain ⟨k, hk⟩ : ∃ k : Nat, k = 970 := ⟨970, rfl⟩
  have hBound : integerBound = 18014398509481983 * 2 ^ k := by
    have hExponent : (970 : Int).toNat = k := by omega
    rw [integerBound, scaleUp_eq, hExponent]
  have hStep := Nat.two_pow_pos k
  rw [hBound]
  rcases Nat.eq_zero_or_pos n with rfl | hPos
  · refine iff_of_true ?_ (Nat.mul_pos (by decide) hStep)
    intro t hSame
    cases hSame
  have hn : n ≠ 0 := Nat.pos_iff_ne_zero.mp hPos
  rcases mantissa_bounds hn with ⟨hLow, hHigh⟩
  have hDen : 0 < scaleUp 1 (n.log2 - 52) :=
    scaleUp_pos one_ne_zero _
  have hQuotient := Nat.div_mul_le_self
    (scaleUp n (52 - n.log2)) (scaleUp 1 (n.log2 - 52))
  have hMin :
      4503599627370496 ≤
        scaleUp n (52 - n.log2) / scaleUp 1 (n.log2 - 52) :=
    (Nat.le_div_iff_mul_le hDen).mpr hLow
  have hMax :
      scaleUp n (52 - n.log2) / scaleUp 1 (n.log2 - 52) <
        9007199254740992 :=
    (Nat.div_lt_iff_lt_mul hDen).mpr hHigh
  have hRounded := divNearest_cases
    (scaleUp n (52 - n.log2)) (scaleUp 1 (n.log2 - 52))
  rw [ofRatio_one hn,
    pack_ne_infinite_iff (by omega) (by omega) (by omega)]
  rcases Nat.lt_trichotomy n.log2 1023 with hLess | hSame | hMore
  · refine iff_of_true (.inl (by omega)) ?_
    have hBelow : n < 2 ^ (53 + k) :=
      lt_two_pow_of_log2_lt (by omega)
    rw [Nat.pow_add] at hBelow
    omega
  · rw [divNearest_lt_iff hDen (by decide), scaleUp_eq, scaleUp_eq]
    have hNone : (52 - n.log2 : Int).toNat = 0 := by omega
    have hExponent : (n.log2 - 52 : Int).toNat = k + 1 := by omega
    rw [hNone, hExponent, Nat.pow_succ]
    omega
  · have hAbove : 2 ^ (54 + k) ≤ 2 ^ n.log2 :=
      Nat.pow_le_pow_right Nat.two_pos (by omega)
    have hLeast := Nat.log2_self_le hn
    rw [Nat.pow_add] at hAbove
    omega

theorem exists_ofInt?_iff
    {n : Int} :
    (∃ x, ofInt? n = some x) ↔ n.natAbs < integerBound := by
  rw [← ofRatio_one_ne_infinite_iff (s := decide (n < 0))]
  unfold ofInt? ofInt
  cases ofRatio (decide (n < 0)) n.natAbs 1 with
  | infinite t => simp
  | nan => simp
  | finite t m e hCanonical => simp

/- The whole part of a double can be read as a double again. -/
theorem exists_ofInt?_truncate?
    {x : Double}
    {n : Int}
    (hWhole : x.truncate? = some n) :
    ∃ y, ofInt? n = some y := by
  rw [exists_ofInt?_iff]
  cases x with
  | nan => cases hWhole
  | infinite s => cases hWhole
  | finite s m e hCanonical =>
      obtain rfl := Option.some.inj hWhole
      have hSize :
          (signed s (scaleUp m e / scaleUp 1 (-e))).natAbs ≤
            scaleUp m e := by
        rw [natAbs_signed]
        exact Nat.div_le_self (scaleUp m e) (scaleUp 1 (-e))
      rcases hCanonical with ⟨hMantissa, _, hExponent, _⟩
      have hPower :
          2 ^ e.toNat ≤ 2 ^ ((970 : Int).toNat + 1) :=
        Nat.pow_le_pow_right Nat.two_pos (by omega)
      calc
        (signed s (scaleUp m e / scaleUp 1 (-e))).natAbs ≤
            m * 2 ^ e.toNat := by rwa [← scaleUp_eq]
        _ ≤ 9007199254740991 * 2 ^ ((970 : Int).toNat + 1) :=
          Nat.mul_le_mul (by omega) hPower
        _ < integerBound := by
          have hStep := Nat.two_pow_pos (970 : Int).toNat
          rw [Nat.pow_succ, integerBound, scaleUp_eq]
          omega

end Double

end LabelPress

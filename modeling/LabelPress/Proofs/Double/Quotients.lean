import LabelPress.Proofs.Double.HalfAway

/-
  Quotients, and rounding them to integers.

  What a quotient is rounded to depends on its value alone, so
  that an integer divided by an integer is the rounded fraction of
  the two.  Rounding a rounded number once more may lead across a
  tie.  A fraction with an even denominator lies on a tie or at
  least one of its parts away, and while those parts are wider
  than the doubles around the fraction, the second rounding finds
  the integer nearest to the fraction itself.

  Main declarations:
    * `Double.le_exponentOf_iff`, `Double.ofRatio_congr`
    * `Double.IsInteger.div_eq`
    * `Double.divNearest_divNearest`
    * `Double.IsInteger.nearestEven?_div`
-/

namespace LabelPress

namespace Double

------------------------------------------------------------
-- Exponents of Quotients
------------------------------------------------------------

section Exponents

variable {num den num' den' : Nat}

/- A number with fewer bits, both of them scaled, is smaller. -/
theorem scaleUp_lt_of_log2
    {m n : Nat}
    {k : Int}
    (hn : n ≠ 0)
    (hLog : (m.log2 : Int) < n.log2 + k) :
    scaleUp m (-k) < scaleUp n k := by
  have hPower :
      2 ^ (m.log2 + 1 + (-k).toNat) ≤ 2 ^ (n.log2 + k.toNat) :=
    Nat.pow_le_pow_right Nat.two_pos (by omega)
  rw [Nat.pow_add, Nat.pow_add 2 n.log2] at hPower
  rw [scaleUp_eq, scaleUp_eq]
  calc
    m * 2 ^ (-k).toNat < 2 ^ (m.log2 + 1) * 2 ^ (-k).toNat :=
      Nat.mul_lt_mul_of_pos_right Nat.lt_log2_self
        (Nat.two_pow_pos _)
    _ ≤ 2 ^ n.log2 * 2 ^ k.toNat := hPower
    _ ≤ n * 2 ^ k.toNat :=
      Nat.mul_le_mul_right _ (Nat.log2_self_le hn)

/-
  The exponent of a quotient is the largest power of two that is
  not above it, less the 52 bits behind the first one.
-/
theorem le_exponentOf_iff
    (hNum : num ≠ 0)
    (hDen : den ≠ 0)
    (k : Int) :
    k - 52 ≤ exponentOf num den ↔
      scaleUp den k ≤ scaleUp num (-k) := by
  have hBits :
      (num.log2 : Int) - den.log2 - 52 + 52 =
        num.log2 - den.log2 := by
    omega
  unfold exponentOf
  dsimp only
  rw [hBits]
  rcases Int.lt_trichotomy k (num.log2 - den.log2) with
    hBelow | rfl | hAbove
  · have hLess : scaleUp den (- -k) < scaleUp num (-k) :=
      scaleUp_lt_of_log2 hNum (by omega)
    rw [Int.neg_neg] at hLess
    refine iff_of_true ?_ hLess.le
    split_ifs
    · omega
    · omega
  · split_ifs with hLess
    · exact iff_of_false (by omega) (Nat.not_le.mpr hLess)
    · exact iff_of_true (by omega) (Nat.not_lt.mp hLess)
  · have hLess : scaleUp num (-k) < scaleUp den k :=
      scaleUp_lt_of_log2 hDen (by omega)
    refine iff_of_false ?_ (Nat.not_le.mpr hLess)
    split_ifs
    · omega
    · omega

/- Powers of two are moved from one side to the other. -/
theorem exists_scaleUp_shift
    (num den : Nat)
    (e : Int)
    (bits : Nat) :
    ∃ k, 0 < k ∧
      scaleUp num (-e) = scaleUp num (-(e + bits)) * k ∧
      scaleUp den e * 2 ^ bits = scaleUp den (e + bits) * k := by
  refine ⟨2 ^ (bits + e.toNat - (e + bits).toNat),
    Nat.two_pow_pos _, ?_, ?_⟩
  · have hBits :
        (-e).toNat =
          (-(e + bits)).toNat +
            (bits + e.toNat - (e + bits).toNat) := by
      omega
    rw [scaleUp_eq, scaleUp_eq, Nat.mul_assoc, ← Nat.pow_add,
      ← hBits]
  · have hBits :
        e.toNat + bits =
          (e + bits).toNat +
            (bits + e.toNat - (e + bits).toNat) := by
      omega
    rw [scaleUp_eq, scaleUp_eq, Nat.mul_assoc, Nat.mul_assoc,
      ← Nat.pow_add, ← Nat.pow_add, hBits]

/- At its exponent a quotient is rounded to a full mantissa. -/
theorem divNearest_exponentOf_bounds
    (hNum : num ≠ 0)
    (hDen : den ≠ 0) :
    2 ^ 52 ≤
        divNearest (scaleUp num (-exponentOf num den))
          (scaleUp den (exponentOf num den)) ∧
      divNearest (scaleUp num (-exponentOf num den))
          (scaleUp den (exponentOf num den)) ≤ 2 ^ 53 := by
  obtain ⟨e, he⟩ : ∃ e, exponentOf num den = e := ⟨_, rfl⟩
  have hLeast := (le_exponentOf_iff hNum hDen (e + 52)).mp (by omega)
  have hMost := (le_exponentOf_iff hNum hDen (e + 53)).not.mp (by omega)
  rcases exists_scaleUp_shift num den e 52 with
    ⟨k, hk, hNumLow, hDenLow⟩
  rcases exists_scaleUp_shift num den e 53 with
    ⟨l, hl, hNumHigh, hDenHigh⟩
  have hPositive : 0 < scaleUp den e := scaleUp_pos hDen e
  have hLow : 2 ^ 52 * scaleUp den e ≤ scaleUp num (-e) := by
    rw [Nat.mul_comm, hDenLow, hNumLow]
    exact Nat.mul_le_mul_right k hLeast
  have hHigh : scaleUp num (-e) < 2 ^ 53 * scaleUp den e := by
    rw [Nat.mul_comm _ (scaleUp den e), hDenHigh, hNumHigh]
    exact Nat.mul_lt_mul_of_pos_right (Nat.not_le.mp hMost) hl
  have hQuotientLow := (Nat.le_div_iff_mul_le hPositive).mpr hLow
  have hQuotientHigh := (Nat.div_lt_iff_lt_mul hPositive).mpr hHigh
  rw [he]
  rcases divNearest_cases (scaleUp num (-e)) (scaleUp den e) with
    h | h
  · omega
  · omega

------------------------------------------------------------
-- Equal Quotients
------------------------------------------------------------

/- Equal fractions are rounded to the same natural. -/
theorem divNearest_congr
    (hDen : 0 < den)
    (hDen' : 0 < den')
    (hSame : num * den' = num' * den) :
    divNearest num den = divNearest num' den' := by
  rw [← divNearest_mul_right num den hDen', hSame,
    Nat.mul_comm den, divNearest_mul_right num' den' hDen]

/- Equal fractions have the same exponent. -/
theorem exponentOf_congr
    (hNum : num ≠ 0)
    (hDen : den ≠ 0)
    (hNum' : num' ≠ 0)
    (hDen' : den' ≠ 0)
    (hSame : num * den' = num' * den) :
    exponentOf num den = exponentOf num' den' := by
  have hNums :
      ∀ k, scaleUp num k * den' = scaleUp num' k * den := by
    intro k
    rw [scaleUp_eq, scaleUp_eq, Nat.mul_right_comm, hSame,
      Nat.mul_right_comm]
  have hDens :
      ∀ k, scaleUp den k * den' = scaleUp den' k * den := by
    intro k
    rw [scaleUp_eq, scaleUp_eq, Nat.mul_right_comm,
      Nat.mul_comm den, Nat.mul_right_comm]
  have hIff :
      ∀ k, k - 52 ≤ exponentOf num den ↔
        k - 52 ≤ exponentOf num' den' := by
    intro k
    rw [le_exponentOf_iff hNum hDen,
      le_exponentOf_iff hNum' hDen',
      ← Nat.mul_le_mul_right_iff (Nat.pos_of_ne_zero hDen'),
      hNums, hDens,
      Nat.mul_le_mul_right_iff (Nat.pos_of_ne_zero hDen)]
  have hUp := (hIff (exponentOf num den + 52)).mp (by omega)
  have hDown := (hIff (exponentOf num' den' + 52)).mpr (by omega)
  omega

/- Equal fractions are rounded to the same double. -/
theorem ofRatio_congr
    (s : Bool)
    (hDen : den ≠ 0)
    (hDen' : den' ≠ 0)
    (hSame : num * den' = num' * den) :
    ofRatio s num den = ofRatio s num' den' := by
  by_cases hNum : num = 0
  · have hNum' : num' = 0 := by
      rw [hNum, Nat.zero_mul] at hSame
      exact (Nat.mul_eq_zero.mp hSame.symm).resolve_right hDen
    rw [ofRatio, ofRatio, if_pos hNum, if_pos hNum']
  · have hNum' : num' ≠ 0 := by
      rintro rfl
      rw [Nat.zero_mul] at hSame
      exact hNum ((Nat.mul_eq_zero.mp hSame).resolve_right hDen')
    have hScaled :
        ∀ i j, scaleUp num i * scaleUp den' j =
          scaleUp num' i * scaleUp den j := by
      intro i j
      simp only [scaleUp_eq]
      rw [Nat.mul_mul_mul_comm, hSame, Nat.mul_mul_mul_comm]
    rw [ofRatio, ofRatio, if_neg hNum, if_neg hNum',
      exponentOf_congr hNum hDen hNum' hDen' hSame]
    dsimp only
    rw [divNearest_congr (scaleUp_pos hDen _) (scaleUp_pos hDen' _)
      (hScaled _ _)]

/- A fraction that is neither tiny nor huge is rounded once. -/
theorem exists_ofRatio
    (s : Bool)
    (hNum : num ≠ 0)
    (hDen : den ≠ 0)
    (hLeast : -1074 ≤ exponentOf num den)
    (hMost : exponentOf num den < 971) :
    ∃ m e hCanonical,
      ofRatio s num den = .finite s m e hCanonical ∧
        scaleUp m (e + 1074) =
          scaleUp
            (divNearest (scaleUp num (-exponentOf num den))
              (scaleUp den (exponentOf num den)))
            (exponentOf num den + 1074) := by
  have hMantissa := divNearest_exponentOf_bounds hNum hDen
  obtain ⟨e, he⟩ : ∃ e, exponentOf num den = e := ⟨_, rfl⟩
  rw [he] at hLeast hMost hMantissa ⊢
  have hRange :
      scaleUp (divNearest (scaleUp num (-e)) (scaleUp den e))
          (e + 1074) <
        infiniteSteps := by
    rw [infiniteSteps, scaleUp_eq _ (e + 1074),
      scaleUp_eq _ (971 + 1074)]
    refine Nat.mul_lt_mul_of_le_of_lt hMantissa.2 ?_ (by decide)
    rw [Nat.pow_lt_pow_iff_right Nat.one_lt_two]
    omega
  rcases exists_pack (s := s) hLeast hMantissa.2
      (.inl hMantissa.1) hRange with
    ⟨m, e', hCanonical, hPacked, hSame⟩
  refine ⟨m, e', hCanonical, ?_, hSame⟩
  rw [ofRatio, if_neg hNum, he]
  dsimp only
  rw [max_eq_right hLeast, hPacked]

end Exponents

------------------------------------------------------------
-- Quotients of Integers
------------------------------------------------------------

variable {x y : Double}
variable {a b : Int}

/- The mantissa and the exponent of an integer, in steps. -/
theorem IsInteger.mantissa_mul
    {s : Bool}
    {m : Nat}
    {e : Int}
    {hCanonical : Canonical m e}
    (hInteger : (Double.finite s m e hCanonical).IsInteger a) :
    m * 2 ^ (e + 1074).toNat = a.natAbs * stepsInOne := by
  have hSize := congrArg Int.natAbs hInteger.steps
  rwa [Double.steps, natAbs_signed, scaleUp_eq, Int.natAbs_mul,
    Int.natAbs_natCast] at hSize

/- Dividing integers rounds the fraction of their magnitudes. -/
theorem IsInteger.div_eq
    (hx : x.IsInteger a)
    (hy : y.IsInteger b)
    (hb : b ≠ 0) :
    x / y =
      ofRatio (x.isNegative ^^ y.isNegative) a.natAbs b.natAbs := by
  cases x with
  | nan => cases hx.finite
  | infinite s => cases hx.finite
  | finite s m e hm =>
  cases y with
  | nan => cases hy.finite
  | infinite t => cases hy.finite
  | finite t n f hn =>
  have hSome : b.natAbs ≠ 0 := Int.natAbs_ne_zero.mpr hb
  have hDivisor : n ≠ 0 := by
    rintro rfl
    have hBottom := hy.mantissa_mul
    rw [Nat.zero_mul] at hBottom
    exact Nat.mul_ne_zero hSome stepsInOne_pos.ne' hBottom.symm
  have hDen := (scaleUp_pos hDivisor (f - e)).ne'
  have hPowers :
      2 ^ (e - f).toNat * 2 ^ (f + 1074).toNat =
        2 ^ (e + 1074).toNat * 2 ^ (f - e).toNat := by
    have hLeast := hm.2.1
    have hLeast' := hn.2.1
    rw [← Nat.pow_add, ← Nat.pow_add]
    congr 1
    omega
  have hSame :
      scaleUp m (e - f) * b.natAbs =
        a.natAbs * scaleUp n (f - e) := by
    apply Nat.eq_of_mul_eq_mul_right stepsInOne_pos
    calc
      scaleUp m (e - f) * b.natAbs * stepsInOne =
          m * 2 ^ (e - f).toNat * (n * 2 ^ (f + 1074).toNat) := by
        rw [hy.mantissa_mul, scaleUp_eq, Nat.mul_assoc]
      _ = m * 2 ^ (e + 1074).toNat * (n * 2 ^ (f - e).toNat) := by
        rw [Nat.mul_mul_mul_comm, hPowers, Nat.mul_mul_mul_comm]
      _ = a.natAbs * scaleUp n (f - e) * stepsInOne := by
        rw [hx.mantissa_mul, scaleUp_eq, Nat.mul_right_comm]
  change div _ _ = _
  rw [div, if_neg hDivisor]
  exact ofRatio_congr _ hDen hSome hSame

------------------------------------------------------------
-- Rounding Twice
------------------------------------------------------------

section Twice

variable {num den c h j : Nat}

theorem divNearest_zero
    (hDen : 0 < den) :
    divNearest 0 den = 0 := by
  simpa only [Nat.zero_mul] using divNearest_mul 0 hDen

/- The nearest natural is the only one, or the even one of two. -/
theorem divNearest_eq
    (hDen : 0 < den)
    (hNear : 2 * ((num : Int) - (c * den : Nat)).natAbs ≤ den)
    (hEven :
      2 * ((num : Int) - (c * den : Nat)).natAbs = den → 2 ∣ c) :
    divNearest num den = c := by
  have hNear' := divNearest_near num hDen
  have hEven' := divNearest_even num hDen
  generalize divNearest num den = d at hNear' hEven' ⊢
  rcases Nat.lt_trichotomy (d + 1) c with hFar | hNext | hOther
  · have hGap := Nat.mul_le_mul_right den hFar
    rw [Nat.succ_mul, Nat.add_mul] at hGap
    omega
  · rw [← hNext, Nat.add_mul] at hNear hEven
    omega
  · rcases Nat.lt_trichotomy (c + 1) d with hFar | hNext | hSame
    · have hGap := Nat.mul_le_mul_right den hFar
      rw [Nat.succ_mul, Nat.add_mul] at hGap
      omega
    · rw [← hNext, Nat.add_mul] at hNear' hEven'
      omega
    · omega

/-
  Rounding a fraction to parts of a power of two first makes no
  difference, if the fraction's own parts are wider than that.
-/
theorem divNearest_divNearest
    (hSome : 0 < h)
    (hHalf : h < 2 ^ j) :
    divNearest (divNearest (num * 2 ^ j) (2 * h)) (2 ^ j) =
      divNearest num (2 * h) := by
  have hDen : 0 < 2 * h := by omega
  obtain ⟨half, hPower⟩ : ∃ half, 2 ^ j = 2 * half := by
    cases j with
    | zero => omega
    | succ j => exact ⟨2 ^ j, Nat.pow_succ'⟩
  have hNear := divNearest_near num hDen
  have hEven := divNearest_even num hDen
  have hFine := divNearest_near (num * 2 ^ j) hDen
  generalize divNearest num (2 * h) = c at hNear hEven ⊢
  generalize divNearest (num * 2 ^ j) (2 * h) = d at hFine ⊢
  rw [hPower] at hFine hHalf ⊢
  -- the distances of both roundings, and of the second one
  obtain ⟨rest, hRest⟩ : ∃ rest : Int, num - (c * (2 * h) : Nat) = rest :=
    ⟨_, rfl⟩
  obtain ⟨x, hx⟩ : ∃ x : Int, d - (c * (2 * half) : Nat) = x :=
    ⟨_, rfl⟩
  have hSplit :
      ((num * (2 * half) : Nat) : Int) - (d * (2 * h) : Nat) =
        2 * (half * rest) - 2 * (x * h) := by
    rw [← hRest, ← hx]
    push_cast
    ring
  rw [hRest] at hNear hEven
  rw [hSplit] at hFine
  have hRestMost : (half : Int) * rest ≤ half * h :=
    Int.mul_le_mul_of_nonneg_left (by omega) (by omega)
  have hRestLeast : (half : Int) * -h ≤ half * rest :=
    Int.mul_le_mul_of_nonneg_left (by omega) (by omega)
  rw [Int.mul_neg] at hRestLeast
  have hMost : x ≤ half := by
    by_contra hMore
    have hLarge : ((half : Int) + 1) * h ≤ x * h :=
      Int.mul_le_mul_of_nonneg_right (by omega) (by omega)
    rw [Int.add_mul] at hLarge
    omega
  have hLeast : -half ≤ x := by
    by_contra hLess
    have hSmall : x * h ≤ (-(half : Int) - 1) * h :=
      Int.mul_le_mul_of_nonneg_right (by omega) (by omega)
    rw [Int.sub_mul, Int.neg_mul] at hSmall
    omega
  refine divNearest_eq (by omega) ?_ fun hTie => hEven ?_
  · rw [hx]
    omega
  · rw [hx] at hTie
    by_contra hNone
    have hInner : (half : Int) * rest ≤ half * (h - 1) :=
      Int.mul_le_mul_of_nonneg_left (by omega) (by omega)
    have hOuter : (half : Int) * (1 - h) ≤ half * rest :=
      Int.mul_le_mul_of_nonneg_left (by omega) (by omega)
    rw [Int.mul_sub, Int.mul_one] at hInner hOuter
    have hEnds : x = half ∨ x = -half := by omega
    rcases hEnds with rfl | rfl
    · omega
    · rw [Int.neg_mul] at hFine
      omega

end Twice

------------------------------------------------------------
-- Nearest Integers
------------------------------------------------------------

theorem signed_zero
    (s : Bool) :
    signed s 0 = 0 := by
  cases s with
  | _ => rfl

/- The nearest integer to a double, counted in steps. -/
theorem nearestEven?_eq
    (hFinite : x.isFinite = true) :
    x.nearestEven? =
      some (signed x.isNegative
        (divNearest x.steps.natAbs stepsInOne)) := by
  cases x with
  | nan => cases hFinite
  | infinite s => cases hFinite
  | finite s m e hCanonical =>
      rcases exists_steps_ratio m hCanonical.2.1 with
        ⟨k, hk, hSteps, hOne⟩
      rw [steps, natAbs_signed, hSteps, hOne,
        divNearest_mul_right _ _ hk]
      rfl

section Ratios

variable {num h k : Nat}

/- Few bits of a fraction leave room for its parts. -/
theorem exponentOf_bounds
    (hNum : num ≠ 0)
    (hSome : 0 < h)
    (hHalf : h < 2 ^ k)
    (hFew : k ≤ 52)
    (hSize : num < 2 * h * 2 ^ (53 - k)) :
    -1074 ≤ exponentOf num (2 * h) ∧
      exponentOf num (2 * h) ≤ -k := by
  have hDen : 2 * h ≠ 0 := by omega
  refine ⟨?_, ?_⟩
  · have hAbove :
        scaleUp (2 * h) (-1022) ≤ scaleUp num (- -1022) := by
      rw [scaleUp_eq, scaleUp_eq]
      calc
        2 * h * 2 ^ (-1022 : Int).toNat ≤
            2 ^ (k + 1) * 2 ^ (-1022 : Int).toNat := by
          refine Nat.mul_le_mul_right _ ?_
          rw [Nat.pow_succ]
          omega
        _ ≤ 1 * 2 ^ (- -1022 : Int).toNat := by
          rw [← Nat.pow_add, Nat.one_mul]
          exact Nat.pow_le_pow_right Nat.two_pos (by omega)
        _ ≤ num * 2 ^ (- -1022 : Int).toNat :=
          Nat.mul_le_mul_right _ (Nat.pos_of_ne_zero hNum)
    have hEnough := (le_exponentOf_iff hNum hDen _).mpr hAbove
    omega
  · have hBits : ((53 : Int) - k).toNat = 53 - k := by omega
    have hNone : (-((53 : Int) - k)).toNat = 0 := by omega
    have hBelow :
        ¬ scaleUp (2 * h) (53 - k) ≤ scaleUp num (-(53 - k)) := by
      rw [scaleUp_eq, scaleUp_eq, hBits, hNone, Nat.pow_zero,
        Nat.mul_one]
      exact Nat.not_le.mpr hSize
    have hLess := (le_exponentOf_iff hNum hDen _).not.mpr hBelow
    omega

/-
  A fraction with an even denominator is rounded to a double and
  then to an integer as it would be at once, if the doubles around
  it are closer to each other than its parts.
-/
theorem nearestEven?_ofRatio
    {s : Bool}
    (hSome : 0 < h)
    (hHalf : h < 2 ^ k)
    (hFew : k ≤ 52)
    (hSize : num < 2 * h * 2 ^ (53 - k)) :
    (ofRatio s num (2 * h)).nearestEven? =
      some (signed s (divNearest num (2 * h))) := by
  have hDen : 2 * h ≠ 0 := by omega
  by_cases hNum : num = 0
  · rw [hNum, ofRatio, if_pos rfl, nearestEven?_eq rfl, steps_zero,
      Int.natAbs_zero, divNearest_zero stepsInOne_pos,
      divNearest_zero (by omega), signed_zero, signed_zero]
  · rcases exponentOf_bounds hNum hSome hHalf hFew hSize with
      ⟨hLeast, hMost⟩
    rcases exists_ofRatio s hNum hDen hLeast (by omega) with
      ⟨m, e', hCanonical, hRounded, hSame⟩
    obtain ⟨e, he⟩ : ∃ e, exponentOf num (2 * h) = e := ⟨_, rfl⟩
    rw [he] at hLeast hMost hSame
    -- the double is a number of parts of a power of two
    obtain ⟨j, hj⟩ : ∃ j, (-e).toNat = j := ⟨_, rfl⟩
    have hParts :
        divNearest (scaleUp num (-e)) (scaleUp (2 * h) e) =
          divNearest (num * 2 ^ j) (2 * h) := by
      have hNone : e.toNat = 0 := by omega
      rw [scaleUp_eq, scaleUp_eq, hj, hNone, Nat.pow_zero,
        Nat.mul_one]
    have hFine : h < 2 ^ j :=
      Nat.lt_of_lt_of_le hHalf
        (Nat.pow_le_pow_right Nat.two_pos (by omega))
    have hPowers :
        ∀ n, divNearest (n * 2 ^ (e + 1074).toNat) (2 ^ 1074) =
          divNearest (n * 2 ^ 0) (2 ^ j) := by
      intro n
      exact divNearest_two_pow n (by omega)
    rw [hParts] at hSame
    rw [hRounded, nearestEven?_eq rfl, steps, natAbs_signed, hSame,
      scaleUp_eq, stepsInOne, hPowers, Nat.pow_zero, Nat.mul_one,
      divNearest_divNearest hSome hFine]
    rfl

end Ratios

/- An integer that is not zero has the sign of its double. -/
theorem IsInteger.isNegative_eq
    (hx : x.IsInteger a)
    (ha : a ≠ 0) :
    x.isNegative = decide (a < 0) := by
  have hSigned := signed_isNegative hx.finite
  have hPositive : (0 : Int) < stepsInOne :=
    Int.natCast_pos.mpr stepsInOne_pos
  have hSteps := hx.steps
  cases hSign : x.isNegative with
  | false =>
      have hLeast : 0 ≤ x.steps := by
        rw [← hSigned, hSign]
        exact Int.natCast_nonneg _
      rw [hSteps] at hLeast
      have hAbove := Int.nonneg_of_mul_nonneg_left hLeast hPositive
      exact (decide_eq_false (by omega)).symm
  | true =>
      have hMost : x.steps ≤ 0 := by
        rw [← hSigned, hSign]
        exact Int.neg_nonpos_of_nonneg (Int.natCast_nonneg _)
      rw [hSteps] at hMost
      have hBelow : a ≤ 0 := by
        by_contra hAbove
        exact absurd hMost
          (Int.not_le.mpr (Int.mul_pos (by omega) hPositive))
      exact (decide_eq_true (by omega)).symm

/- An integer divided by an even one is rounded to an integer. -/
theorem IsInteger.nearestEven?_div
    {h k : Nat}
    (hx : x.IsInteger a)
    (hy : y.IsInteger (2 * h : Nat))
    (hSome : 0 < h)
    (hHalf : h < 2 ^ k)
    (hFew : k ≤ 52)
    (hSize : a.natAbs < 2 * h * 2 ^ (53 - k)) :
    (x / y).nearestEven? =
      some (signed (decide (a < 0))
        (divNearest a.natAbs (2 * h))) := by
  have hDivisor : ((2 * h : Nat) : Int) ≠ 0 := by omega
  have hPositive : y.isNegative = false := by
    rw [hy.isNegative_eq hDivisor]
    exact decide_eq_false (by omega)
  rw [hx.div_eq hy hDivisor, hPositive, Bool.xor_false,
    Int.natAbs_natCast,
    nearestEven?_ofRatio hSome hHalf hFew hSize]
  by_cases ha : a = 0
  · rw [ha, Int.natAbs_zero, divNearest_zero (by omega),
      signed_zero, signed_zero]
  · rw [hx.isNegative_eq ha]

end Double

end LabelPress

import LabelPress.Proofs.Outcome
import LabelPress.Proofs.Value.NumberRange
import LabelPress.Value.Display

/-
  Which values can be shown or looked up.

  A numeral must not be too long, and values must not lie too
  deep in each other; nothing else keeps a value from being
  shown.  An integer in the range of doubles is never too long.

  Main declarations:
    * `Fault.IsOfShowing`
    * `Value.checkNumeral_eq_ok_iff`
    * `Value.checkInspected_failsOnly`, `Value.checkKey_failsOnly`
    * `Value.FitsDouble.checkNumeral`
    * `Value.boundOver`, `Value.checkInspected_boundOver`
-/

namespace LabelPress

/- The faults of a value that cannot be shown. -/
inductive Fault.IsOfShowing :
    Fault → Prop where
  | nestedTooDeep : IsOfShowing .nestedTooDeep
  | numeralTooLong (limit : Nat) : IsOfShowing (.numeralTooLong limit)

namespace Value

open Outcome

------------------------------------------------------------
-- Numerals
------------------------------------------------------------

/- A numeral may have as many digits as an integer is read with. -/
theorem checkNumeral_eq_ok_iff
    {n : Int} :
    checkNumeral n = .ok () ↔ n.natAbs < 10 ^ Text.maxIntegerDigits := by
  have hLength :
      (Text.digits 10 n.natAbs).length ≤ Text.maxIntegerDigits ↔
        n.natAbs < 10 ^ Text.maxIntegerDigits := by
    rw [Text.digits, List.length_map]
    exact Nat.length_toDigits_le_iff (by decide) (by decide)
  rw [← hLength, checkNumeral]
  split_ifs with hLong
  · exact iff_of_false nofun (Nat.not_le_of_lt hLong)
  · exact iff_of_true rfl (Nat.le_of_not_lt hLong)

theorem checkNumeral_eq_error
    {n : Int}
    (hLong : 10 ^ Text.maxIntegerDigits ≤ n.natAbs) :
    checkNumeral n = .error (.numeralTooLong Text.maxIntegerDigits) := by
  have hNot : ¬ checkNumeral n = .ok () := fun hShort =>
    Nat.not_le_of_lt (checkNumeral_eq_ok_iff.mp hShort) hLong
  unfold checkNumeral at hNot ⊢
  split_ifs at hNot ⊢ with hDigits
  · rfl
  · exact absurd rfl hNot

theorem checkNumeral_failsOnly
    (n : Int) :
    FailsOnly Fault.IsOfShowing (checkNumeral n) := by
  rw [checkNumeral]
  split_ifs with hLong
  · exact failsOnly_error (.numeralTooLong _)
  · exact failsOnly_ok ()

/- The range of doubles ends before numerals become too long. -/
theorem FitsDouble.checkNumeral
    {n : Int}
    (hFits : (Value.int n).FitsDouble) :
    checkNumeral n = .ok () := by
  -- The exponents stay variables, so that no power is evaluated.
  obtain ⟨k, hk⟩ : ∃ k : Nat, k = 970 := ⟨970, rfl⟩
  obtain ⟨d, hd⟩ : ∃ d : Nat, d = Text.maxIntegerDigits := ⟨_, rfl⟩
  have hDigits : 54 + k ≤ d := by
    rw [hk, hd]
    decide
  have hExponent : (970 : Int).toNat = k := by omega
  have hPower : Double.integerBound ≤ 10 ^ d :=
    calc Double.integerBound
      _ = 18014398509481983 * 2 ^ k := by
          rw [Double.integerBound, Double.scaleUp_eq, hExponent]
      _ ≤ 2 ^ 54 * 2 ^ k := Nat.mul_le_mul_right _ (by decide)
      _ = 2 ^ (54 + k) := (Nat.pow_add 2 54 k).symm
      _ ≤ 2 ^ d := Nat.pow_le_pow_right (by decide) hDigits
      _ ≤ 10 ^ d := Nat.pow_le_pow_left (by decide) d
  rw [checkNumeral_eq_ok_iff, ← hd]
  exact Nat.lt_of_lt_of_le (hFits n rfl) hPower

------------------------------------------------------------
-- Values
------------------------------------------------------------

mutual

/-
  The check of a value has no faults but these.  The induction is
  on the value, with those on its items and on its fields.
-/
theorem checkInspected_failsOnly
    (levels : Nat)
    (v : Value) :
    FailsOnly Fault.IsOfShowing (v.checkInspected levels) := by
  cases v with
  | int n => exact checkNumeral_failsOnly n
  | list items => exact checkItems_failsOnly levels items
  | tuple items => exact checkItems_failsOnly levels items
  | object fields => exact checkFields_failsOnly levels fields
  | record kind fields =>
      rw [checkInspected]
      split_ifs with hShallow
      · exact failsOnly_error .nestedTooDeep
      · exact checkFields_failsOnly _ fields
  | _ => exact failsOnly_ok ()

theorem checkItems_failsOnly
    (levels : Nat)
    (vs : List Value) :
    FailsOnly Fault.IsOfShowing (checkItems levels vs) := by
  cases vs with
  | nil =>
      rw [checkItems]
      exact failsOnly_ok ()
  | cons v vs =>
      cases levels with
      | zero => exact failsOnly_error .nestedTooDeep
      | succ levels =>
          exact (checkInspected_failsOnly levels v).bind fun _ =>
            checkItems_failsOnly (levels + 1) vs

theorem checkFields_failsOnly
    (levels : Nat)
    (fields : List (Text × Value)) :
    FailsOnly Fault.IsOfShowing (checkFields levels fields) := by
  rcases fields with _ | ⟨⟨key, v⟩, fields⟩
  · rw [checkFields]
    exact failsOnly_ok ()
  · cases levels with
    | zero => exact failsOnly_error .nestedTooDeep
    | succ levels =>
        exact (checkInspected_failsOnly levels v).bind fun _ =>
          checkFields_failsOnly (levels + 1) fields

end

section Parts

variable {P : Fault → Prop}

/- A list fails as its items do, or takes too many levels. -/
theorem checkItems_failsOnly_of
    {vs : List Value}
    (hDeep : P .nestedTooDeep)
    (hItems :
      ∀ v ∈ vs, ∀ levels, FailsOnly P (v.checkInspected levels))
    (levels : Nat) :
    FailsOnly P (checkItems levels vs) := by
  induction vs with
  | nil =>
      rw [checkItems]
      exact failsOnly_ok ()
  | cons v vs ih =>
      rcases List.forall_mem_cons.mp hItems with ⟨hFirst, hRest⟩
      cases levels with
      | zero => exact failsOnly_error hDeep
      | succ levels => exact (hFirst levels).bind fun _ => ih hRest

/- Fields do so likewise. -/
theorem checkFields_failsOnly_of
    {fields : List (Text × Value)}
    (hDeep : P .nestedTooDeep)
    (hFields :
      ∀ field ∈ fields, ∀ levels,
        FailsOnly P (field.2.checkInspected levels))
    (levels : Nat) :
    FailsOnly P (checkFields levels fields) := by
  induction fields with
  | nil =>
      rw [checkFields]
      exact failsOnly_ok ()
  | cons field fields ih =>
      rcases field with ⟨key, v⟩
      rcases List.forall_mem_cons.mp hFields with ⟨hFirst, hRest⟩
      cases levels with
      | zero => exact failsOnly_error hDeep
      | succ levels => exact (hFirst levels).bind fun _ => ih hRest

end Parts

theorem checkShown_failsOnly
    [Machine]
    (site : Site)
    (v : Value) :
    FailsOnly Fault.IsOfShowing (v.checkShown site) :=
  checkInspected_failsOnly _ v

------------------------------------------------------------
-- Keys
------------------------------------------------------------

mutual

/-
  What is no key is of the wrong kind or too deep in itself.  The
  induction is the same as for what is shown.
-/
theorem checkKey_failsOnly
    (levels : Nat)
    (v : Value) :
    FailsOnly (fun f => f = .wrongKind ∨ f = .nestedTooDeep)
      (v.checkKey levels) := by
  cases v with
  | list items => exact failsOnly_error (.inl rfl)
  | object fields => exact failsOnly_error (.inl rfl)
  | tuple items => exact checkKeyItems_failsOnly levels items
  | record kind fields =>
      rw [checkKey]
      split_ifs with hShallow
      · exact failsOnly_error (.inr rfl)
      · exact checkKeyFields_failsOnly _ fields
  | _ => exact failsOnly_ok ()

theorem checkKeyItems_failsOnly
    (levels : Nat)
    (vs : List Value) :
    FailsOnly (fun f => f = .wrongKind ∨ f = .nestedTooDeep)
      (checkKeyItems levels vs) := by
  cases vs with
  | nil => exact failsOnly_ok ()
  | cons v vs =>
      exact (checkKey_failsOnly levels v).bind fun _ =>
        checkKeyItems_failsOnly levels vs

theorem checkKeyFields_failsOnly
    (levels : Nat)
    (fields : List (Text × Value)) :
    FailsOnly (fun f => f = .wrongKind ∨ f = .nestedTooDeep)
      (checkKeyFields levels fields) := by
  rcases fields with _ | ⟨⟨key, v⟩, fields⟩
  · exact failsOnly_ok ()
  · exact (checkKey_failsOnly levels v).bind fun _ =>
      checkKeyFields_failsOnly levels fields

end

/- An empty text that is bound some times over. -/
def boundOver :
    Nat → Value
  | 0 => .text ""
  | n + 1 => .record (.bound .string) [("value", boundOver n)]

theorem fitsDouble_boundOver
    (n : Nat) :
    (boundOver n).FitsDouble := by
  cases n with
  | _ => exact fun k hSame => by cases hSame

/-
  A value that is bound over takes three levels each time, and six
  the last time.
-/
theorem checkInspected_boundOver
    {n levels : Nat}
    (hFew : levels < 3 * n + 6) :
    (boundOver (n + 1)).checkInspected levels =
      .error .nestedTooDeep := by
  induction n generalizing levels with
  | zero => exact if_pos hFew
  | succ n ih =>
      by_cases hHead : levels < 6
      · exact if_pos hHead
      · obtain ⟨inner, rfl⟩ : ∃ inner, levels = inner + 3 :=
          ⟨levels - 3, by omega⟩
        have hInner := ih (show inner < 3 * n + 6 by omega)
        calc (boundOver (n + 2)).checkInspected (inner + 3)
          _ = checkFields (inner + 1)
                [("value", boundOver (n + 1))] := if_neg hHead
          _ = .error .nestedTooDeep := by
              rw [checkFields, hInner]
              rfl

end Value

end LabelPress

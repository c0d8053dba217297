import LabelPress.Double.Printer
import LabelPress.Proofs.Text.Parts
import LabelPress.Proofs.Value.Display
import LabelPress.Text.Numeral
import Mathlib.Algebra.Group.Nat.Defs

/-
  Numbers and parts read off a text.

  Digits are read as the number that they were written for, with
  zeros in front or not, and a numeral as its integer.  What ends
  at a mark is read up to the mark if the mark is not in it.

  Main declarations:
    * `Text.naturalOf_paddedDigits`
    * `Text.ofNumeral?`, `Text.ofNumeral?_numeral`
    * `Text.cut?`, `Text.cutTimes?_intercalate`
-/

namespace LabelPress

namespace Text

------------------------------------------------------------
-- Digits
------------------------------------------------------------

theorem isAsciiDigit_of_mem_digits
    {n : Nat}
    {c : CodePoint}
    (hMember : c ∈ digits 10 n) :
    isAsciiDigit c = true := by
  have hNumeral := isNumeral_of_mem_digits hMember
  rcases List.mem_map.mp hMember with ⟨d, hd, rfl⟩
  have hDigit :=
    Nat.isDigit_of_mem_toDigits (by decide) (by decide) hd
  have hOther : CodePoint.char d ≠ .char '-' := by
    rintro ⟨⟩
    exact absurd hDigit (by decide)
  rw [CodePoint.isNumeral, Bool.or_eq_true, beq_iff_eq,
    or_iff_left hOther] at hNumeral
  exact hNumeral

theorem naturalOf_digits
    (n : Nat) :
    naturalOf (digits 10 n) = n := by
  have hSame := Nat.ofDigitChars_toDigits (b := 10) (n := n)
    (by decide) (by decide)
  rw [naturalOf, digits, List.foldl_map]
  exact hSame

/- Zeros in front do not count. -/
theorem naturalOf_run_append
    (k : Nat)
    (t : Text) :
    naturalOf (run '0' k ++ t) = naturalOf t := by
  induction k with
  | zero => rfl
  | succ k ih =>
      rw [run, List.replicate_succ, List.cons_append]
      exact ih

theorem naturalOf_paddedDigits
    (width n : Nat) :
    naturalOf (paddedDigits width n) = n := by
  rw [paddedDigits, naturalOf_run_append, naturalOf_digits]

theorem isAsciiDigit_of_mem_paddedDigits
    {width n : Nat}
    {c : CodePoint}
    (hMember : c ∈ paddedDigits width n) :
    isAsciiDigit c = true := by
  rcases List.mem_append.mp hMember with hZero | hDigit
  · rw [List.eq_of_mem_replicate hZero]
    decide
  · exact isAsciiDigit_of_mem_digits hDigit

/- A number that is not too large fills its width. -/
theorem length_paddedDigits
    {width n : Nat}
    (hWidth : 0 < width)
    (hBound : n < 10 ^ width) :
    (paddedDigits width n).length = width := by
  have hDigits : (digits 10 n).length ≤ width := by
    rw [digits, List.length_map]
    exact (Nat.length_toDigits_le_iff (by decide) hWidth).mpr
      hBound
  rw [paddedDigits, List.length_append, run,
    List.length_replicate]
  omega

------------------------------------------------------------
-- Numerals
------------------------------------------------------------

/- The integer of a numeral: a sign and at least one digit. -/
def ofNumeral?
    (t : Text) :
    Option Int :=
  let (negative, ds) := splitSign t
  if ds = [] ∨ ¬ ds.all isAsciiDigit then none
  else some (Double.signed negative (naturalOf ds))

theorem all_isAsciiDigit_digits
    (n : Nat) :
    (digits 10 n).all isAsciiDigit = true :=
  List.all_eq_true.mpr fun _ => isAsciiDigit_of_mem_digits

/- The numeral of an integer is its sign and its digits. -/
theorem numeral_eq
    (n : Int) :
    ofString (toString n) =
      if n < 0 then CodePoint.char '-' :: digits 10 n.natAbs
      else digits 10 n.natAbs := by
  have hNat :
      ∀ k : Nat, ofString (Nat.repr k) = digits 10 k := by
    intro k
    rw [ofString, Nat.toList_repr, digits]
  rw [Int.toString_eq_repr]
  cases n with
  | ofNat k =>
      rw [if_neg (by simp)]
      exact hNat k
  | negSucc k =>
      rw [if_pos (Int.negSucc_lt_zero k), ← hNat]
      change (("-" ++ Nat.repr (k + 1)).toList.map _) = _
      rw [String.toList_append, List.map_append]
      rfl

theorem splitSign_digits
    (n : Nat) :
    splitSign (digits 10 n) = (false, digits 10 n) := by
  cases hDigits : digits 10 n with
  | nil => rfl
  | cons c cs =>
      have hDigit : isAsciiDigit c = true := by
        apply isAsciiDigit_of_mem_digits (n := n)
        rw [hDigits]
        exact List.mem_cons_self
      have hPlus : c ≠ .char '+' := by
        rintro rfl
        exact absurd hDigit (by decide)
      have hMinus : c ≠ .char '-' := by
        rintro rfl
        exact absurd hDigit (by decide)
      rw [splitSign.eq_3] <;> grind

theorem ofNumeral?_numeral
    (n : Int) :
    ofNumeral? (ofString (toString n)) = some n := by
  have hRead :
      ∀ k, ¬ (digits 10 k = [] ∨
        ¬ (digits 10 k).all isAsciiDigit = true) := by
    intro k
    rw [not_or, not_not]
    exact ⟨digits_ne_nil k, all_isAsciiDigit_digits k⟩
  rw [numeral_eq, ofNumeral?]
  split_ifs with hNegative
  · have hSign :
        splitSign (.char '-' :: digits 10 n.natAbs) =
          (true, digits 10 n.natAbs) := rfl
    rw [hSign]
    dsimp only
    rw [if_neg (hRead _), naturalOf_digits, Double.signed,
      if_pos rfl]
    congr 1
    omega
  · rw [splitSign_digits]
    dsimp only
    rw [if_neg (hRead _), naturalOf_digits, Double.signed,
      if_neg Bool.false_ne_true]
    congr 1
    omega

------------------------------------------------------------
-- Parts
------------------------------------------------------------

/- A text cut at the first place of a mark. -/
def cut?
    (mark : CodePoint)
    (t : Text) :
    Option (Text × Text) :=
  match onFrom mark t with
  | [] => none
  | _ :: rest => some (upTo mark t, rest)

theorem cut?_append_cons
    {mark : CodePoint}
    {s : Text}
    (hNone : mark ∉ s)
    (t : Text) :
    cut? mark (s ++ mark :: t) = some (s, t) := by
  rw [cut?, onFrom_append_cons hNone, upTo_append_cons hNone]

/- A text cut at the first places of a mark, some times. -/
def cutTimes?
    (mark : CodePoint) :
    Nat → Text → Option (List Text × Text)
  | 0, t => some ([], t)
  | n + 1, t => do
      let (part, t) ← cut? mark t
      let (parts, rest) ← cutTimes? mark n t
      return (part :: parts, rest)

/- Parts without the mark are cut off from what is behind them. -/
theorem cutTimes?_intercalate
    {mark : CodePoint}
    {front : List Text}
    (hFront : ∀ part ∈ front, mark ∉ part)
    (last : Text) :
    cutTimes? mark front.length
        (intercalate [mark] (front ++ [last])) =
      some (front, last) := by
  induction front with
  | nil => simp [cutTimes?, intercalate, List.intercalate]
  | cons part front ih =>
      rcases List.forall_mem_cons.mp hFront with ⟨hFirst, hRest⟩
      have hJoined :
          intercalate [mark] (part :: front ++ [last]) =
            part ++ mark ::
              intercalate [mark] (front ++ [last]) := by
        rw [List.cons_append, intercalate,
          List.intercalate_cons_of_ne_nil (by simp),
          List.append_assoc]
        rfl
      rw [hJoined, List.length_cons, cutTimes?,
        cut?_append_cons hFirst]
      simp only [Option.bind_eq_bind, Option.bind_some, ih hRest]
      rfl

end Text

end LabelPress

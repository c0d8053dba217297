import LabelPress.Text.Basic
import Mathlib.Data.List.Basic
import Std.Data.String.ToInt

/-
  Integers in texts.

  The numeral of an integer consists of digits and a minus sign.
  So a numeral that is followed by any other character can be
  read off a text, and texts with numerals and the same signs
  between them are equal only when the integers are.

  Main declarations:
    * `CodePoint.isNumeral`
    * `Text.isNumeral_of_mem_numeral`
    * `Text.numeral_injective`, `Text.numeral_append_cons_inj`
-/

namespace LabelPress

/- Whether a code point may stand in the numeral of an integer. -/
def CodePoint.isNumeral
    (c : CodePoint) :
    Bool :=
  c.isDigit || c == '-'

namespace Text

theorem ofString_injective :
    Function.Injective ofString := by
  intro s t hSame
  have hList : s.toList = t.toList := by
    refine List.map_injective_iff.mpr ?_ hSame
    intro c d hChar
    exact CodePoint.char.inj hChar
  exact String.toList_inj.mp hList

theorem isNumeral_of_isDigit
    {c : Char}
    (hDigit : c.isDigit = true) :
    CodePoint.isNumeral c = true := by
  have hBounds : 48 ≤ c.val ∧ c.val ≤ 57 := by
    simpa [Char.isDigit] using hDigit
  have hRange : 48 ≤ c.toNat ∧ c.toNat ≤ 57 := by
    simpa [UInt32.le_iff_toNat_le] using hBounds
  have hClass : (CodePoint.char c).isDigit = true := by
    rw [CodePoint.isDigit, Bool.and_eq_true,
      decide_eq_true_eq, decide_eq_true_eq]
    exact hRange
  rw [CodePoint.isNumeral, hClass]
  rfl

theorem isNumeral_of_mem_digits
    {n : Nat}
    {c : CodePoint}
    (hMember : c ∈ digits 10 n) :
    c.isNumeral = true := by
  rcases List.mem_map.mp hMember with ⟨d, hd, rfl⟩
  exact isNumeral_of_isDigit
    (Nat.isDigit_of_mem_toDigits (by decide) (by decide) hd)

/- A numeral consists of digits and a minus sign. -/
theorem isNumeral_of_mem_numeral
    {n : Int}
    {c : CodePoint}
    (hMember : c ∈ ofString (toString n)) :
    c.isNumeral = true := by
  have hNat :
      ∀ k : Nat, ∀ d ∈ (Nat.repr k).toList,
        CodePoint.isNumeral d = true := by
    intro k d hDigit
    rw [Nat.toList_repr] at hDigit
    exact isNumeral_of_mem_digits (List.mem_map_of_mem hDigit)
  rcases List.mem_map.mp hMember with ⟨d, hd, rfl⟩
  rw [Int.toString_eq_repr] at hd
  cases n with
  | ofNat k => exact hNat k d hd
  | negSucc k =>
      have hParts :
          d ∈ "-".toList ++ (Nat.repr (k + 1)).toList := by
        rw [← String.toList_append]
        exact hd
      rcases List.mem_append.mp hParts with hSign | hDigits
      · obtain rfl : d = '-' := by simpa using hSign
        rfl
      · exact hNat (k + 1) d hDigits

theorem notMem_numeral
    {n : Int}
    {c : CodePoint}
    (hOther : c.isNumeral = false) :
    c ∉ ofString (toString n) := by
  intro hMember
  rw [isNumeral_of_mem_numeral hMember] at hOther
  exact Bool.noConfusion hOther

/- Texts are equal when they are so before and after a mark. -/
theorem append_cons_inj
    {u v s t : Text}
    {c : CodePoint}
    (hLeft : c ∉ u)
    (hRight : c ∉ v) :
    u ++ c :: s = v ++ c :: t ↔ u = v ∧ s = t := by
  induction u generalizing v with
  | nil =>
      cases v with
      | nil => simp
      | cons d v =>
          have hFirst : c ≠ d := List.ne_of_not_mem_cons hRight
          simp [hFirst]
  | cons d u ih =>
      rw [List.mem_cons, not_or] at hLeft
      cases v with
      | nil => simp [Ne.symm hLeft.1]
      | cons d' v =>
          rw [List.mem_cons, not_or] at hRight
          simp [ih hLeft.2 hRight.2, and_assoc]

theorem numeral_injective
    {a b : Int}
    (hSame :
      ofString (toString a) = ofString (toString b)) :
    a = b := by
  have hText := ofString_injective hSame
  rw [Int.toString_eq_repr, Int.toString_eq_repr] at hText
  exact Int.repr_injective hText

/- A numeral ends at the first character that is none of its. -/
theorem numeral_append_cons_inj
    {a b : Int}
    {c : CodePoint}
    {s t : Text}
    (hOther : c.isNumeral = false) :
    ofString (toString a) ++ c :: s =
        ofString (toString b) ++ c :: t ↔
      a = b ∧ s = t := by
  rw [append_cons_inj (notMem_numeral hOther)
    (notMem_numeral hOther)]
  constructor
  · rintro ⟨hNumeral, hRest⟩
    exact ⟨numeral_injective hNumeral, hRest⟩
  · rintro ⟨rfl, rfl⟩
    exact ⟨rfl, rfl⟩

end Text

end LabelPress

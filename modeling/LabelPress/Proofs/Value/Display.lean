import LabelPress.Proofs.Text.Numerals
import LabelPress.Value.Display

/-
  What values show.

  Every value shows at least one character, on its own and inside
  others, unless it is the empty text.

  Main declarations:
    * `Text.digits_ne_nil`
    * `Double.toText_ne_nil`
    * `Value.inspected_ne_nil`
    * `Value.toText_ne_nil`
-/

namespace LabelPress

------------------------------------------------------------
-- Numbers
------------------------------------------------------------

theorem Text.digits_ne_nil
    (n : Nat) :
    digits 10 n ≠ [] := by
  intro hNone
  have hDigits : Nat.toDigits 10 n = [] :=
    List.map_eq_nil_iff.mp hNone
  exact Nat.toDigits_ne_nil hDigits

theorem Text.numeral_ne_nil
    (n : Int) :
    ofString (toString n) ≠ [] := by
  rw [Int.toString_eq_repr]
  intro hNone
  have hRepr : n.repr.toList = [] := List.map_eq_nil_iff.mp hNone
  cases n with
  | ofNat k =>
      change (Nat.repr k).toList = [] at hRepr
      rw [Nat.toList_repr] at hRepr
      exact Nat.toDigits_ne_nil hRepr
  | negSucc k =>
      change ("-" ++ Nat.repr (k + 1)).toList = [] at hRepr
      rw [String.toList_append] at hRepr
      exact absurd (List.append_eq_nil_iff.mp hRepr).1 (by decide)

theorem paddedDigits_ne_nil
    (width : Nat)
    (n : Nat) :
    paddedDigits width n ≠ [] :=
  List.append_ne_nil_of_right_ne_nil _ (Text.digits_ne_nil n)

/- A decimal shows its digits. -/
theorem Double.layout_ne_nil
    (d : Decimal) :
    layout d ≠ [] := by
  have hDigits := Text.digits_ne_nil d.digits
  unfold layout
  dsimp only
  split_ifs with hLead hPoint hWhole
  · exact List.append_ne_nil_of_right_ne_nil _ (by decide)
  · refine List.append_ne_nil_of_left_ne_nil ?_ _
    exact List.append_ne_nil_of_right_ne_nil _ (by decide)
  · refine List.append_ne_nil_of_left_ne_nil ?_ _
    exact List.append_ne_nil_of_left_ne_nil (by decide) _
  · cases hShown : Text.digits 10 d.digits with
    | nil => exact absurd hShown hDigits
    | cons c cs =>
        cases cs with
        | _ => exact List.cons_ne_nil _ _

theorem Double.toText_ne_nil
    (x : Double) :
    x.toText ≠ [] := by
  cases x with
  | nan => decide
  | infinite s =>
      cases s with
      | _ => decide
  | finite s m e h =>
      refine List.append_ne_nil_of_right_ne_nil _ ?_
      split_ifs with hZero
      · decide
      · exact layout_ne_nil _

------------------------------------------------------------
-- Values
------------------------------------------------------------

theorem bracketed_ne_nil
    {opening : Text}
    (closing : Text)
    (parts : List Text)
    (hOpening : opening ≠ []) :
    bracketed opening closing parts ≠ [] := by
  refine List.append_ne_nil_of_left_ne_nil ?_ _
  exact List.append_ne_nil_of_left_ne_nil hOpening _

namespace Value

theorem tupleText_ne_nil
    (parts : List Text) :
    tupleText parts ≠ [] := by
  unfold tupleText
  split
  · exact List.append_ne_nil_of_right_ne_nil _ (by decide)
  · exact bracketed_ne_nil _ _ (by decide)

/- Inside others, every value shows. -/
theorem inspected_ne_nil
    (v : Value) :
    v.inspected ≠ [] := by
  cases v with
  | null => decide
  | bool b =>
      cases b with
      | _ => decide
  | int n => exact Text.numeral_ne_nil n
  | double x => exact x.toText_ne_nil
  | text s => exact List.cons_ne_nil _ _
  | list items => exact bracketed_ne_nil _ _ (by decide)
  | tuple items => exact tupleText_ne_nil _
  | object fields => exact bracketed_ne_nil _ _ (by decide)
  | date d => exact bracketed_ne_nil _ _ (by decide)
  | moment m => exact bracketed_ne_nil _ _ (by decide)
  | record kind fields =>
      refine bracketed_ne_nil _ _ ?_
      exact List.append_ne_nil_of_right_ne_nil _ (by decide)

/- On its own, every value but the empty text shows. -/
theorem toText_ne_nil
    {v : Value}
    (hText : v.isEmptyText = false) :
    v.toText ≠ [] := by
  cases v with
  | text s =>
      rintro rfl
      exact absurd hText (by decide)
  | date d =>
      exact List.append_ne_nil_of_right_ne_nil _
        (paddedDigits_ne_nil 2 d.day)
  | moment m =>
      refine List.append_ne_nil_of_left_ne_nil ?_ _
      refine List.append_ne_nil_of_left_ne_nil ?_ _
      exact List.append_ne_nil_of_right_ne_nil _ (by decide)
  | _ => exact inspected_ne_nil _

end Value

end LabelPress

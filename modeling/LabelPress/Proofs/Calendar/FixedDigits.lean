import LabelPress.Calendar.Iso
import LabelPress.Proofs.Text.ReadIntegers

/-
  Numbers in a fixed number of digits.

  Digits of one length that denote the same number are the same,
  so a number in a fixed number of digits is written in one way
  only.  Reading so many digits off a text finds the number
  exactly where the text starts with that way of writing it.

  Main declarations:
    * `Text.naturalOf_cons`, `Text.eq_paddedDigits`
    * `Iso.number?_eq_some_iff`
-/

namespace LabelPress

namespace Text

------------------------------------------------------------
-- Values of Digits
------------------------------------------------------------

/- The first digit counts by how many stand behind it. -/
theorem naturalOf_cons
    (c : CodePoint)
    (cs : Text) :
    naturalOf (c :: cs) =
      asciiDigitValue c * 10 ^ cs.length + naturalOf cs := by
  induction cs using List.reverseRecOn generalizing c with
  | nil => simp [naturalOf]
  | append_singleton cs d ih =>
      have hLast : ∀ t : Text,
          naturalOf (t ++ [d]) =
            10 * naturalOf t + asciiDigitValue d := by
        intro t
        rw [naturalOf, List.foldl_append]
        rfl
      rw [← List.cons_append, hLast, hLast, ih, List.length_append,
        List.length_singleton, Nat.pow_succ, Nat.mul_add,
        Nat.mul_left_comm, Nat.mul_comm 10, Nat.add_assoc]

theorem naturalOf_lt
    {ds : Text}
    (hDigits : ∀ c ∈ ds, isAsciiDigit c = true) :
    naturalOf ds < 10 ^ ds.length := by
  induction ds with
  | nil => decide
  | cons c cs ih =>
      rcases List.forall_mem_cons.mp hDigits with ⟨hFirst, hRest⟩
      have hValue := asciiDigitValue_lt hFirst
      have hTail := ih hRest
      have hLead :
          asciiDigitValue c * 10 ^ cs.length ≤
            9 * 10 ^ cs.length :=
        Nat.mul_le_mul_right _ (Nat.le_of_lt_succ hValue)
      rw [naturalOf_cons, List.length_cons, Nat.pow_succ]
      omega

/- Digits of one length are known by their value. -/
theorem eq_of_naturalOf_eq
    {ds es : Text}
    (hLength : ds.length = es.length)
    (hDs : ∀ c ∈ ds, isAsciiDigit c = true)
    (hEs : ∀ c ∈ es, isAsciiDigit c = true)
    (hSame : naturalOf ds = naturalOf es) :
    ds = es := by
  induction ds generalizing es with
  | nil => exact (List.eq_nil_of_length_eq_zero hLength.symm).symm
  | cons c cs ih =>
      cases es with
      | nil => cases hLength
      | cons d es =>
          rcases List.forall_mem_cons.mp hDs with ⟨hc, hcs⟩
          rcases List.forall_mem_cons.mp hEs with ⟨hd, hes⟩
          have hRest : cs.length = es.length :=
            Nat.succ.inj hLength
          have hLow := naturalOf_lt hcs
          have hLow' := naturalOf_lt hes
          rw [naturalOf_cons, naturalOf_cons, hRest] at hSame
          rw [hRest] at hLow
          have hFirst : asciiDigitValue c = asciiDigitValue d := by
            have hQuotient := congrArg (· / 10 ^ es.length) hSame
            have hPositive : 0 < 10 ^ es.length :=
              Nat.pow_pos (by decide)
            simpa [Nat.mul_comm _ (10 ^ es.length),
              Nat.mul_add_div hPositive, Nat.div_eq_of_lt hLow,
              Nat.div_eq_of_lt hLow'] using hQuotient
          rw [hFirst] at hSame
          rw [eq_of_asciiDigitValue_eq hc hd hFirst,
            ih hRest hcs hes (Nat.add_left_cancel hSame)]

/- So many digits are the padded ones of their value. -/
theorem eq_paddedDigits
    {ds : Text}
    (hSome : ds ≠ [])
    (hDigits : ∀ c ∈ ds, isAsciiDigit c = true) :
    ds = paddedDigits ds.length (naturalOf ds) := by
  have hLength :=
    length_paddedDigits (List.length_pos_iff.mpr hSome)
      (naturalOf_lt hDigits)
  exact eq_of_naturalOf_eq hLength.symm hDigits
    (fun _ => isAsciiDigit_of_mem_paddedDigits)
    (naturalOf_paddedDigits _ _).symm

theorem length_two
    {n : Nat}
    (hBound : n < 100) :
    (paddedDigits 2 n).length = 2 :=
  length_paddedDigits (by decide) hBound

theorem length_four
    {n : Nat}
    (hBound : n < 10000) :
    (paddedDigits 4 n).length = 4 :=
  length_paddedDigits (by decide) hBound

end Text

namespace Iso

------------------------------------------------------------
-- Reading Digits
------------------------------------------------------------

theorem number?_digits
    {ds : Text}
    (hDigits : ∀ c ∈ ds, Text.isAsciiDigit c = true)
    (rest : Text) :
    number? ds.length (ds ++ rest) =
      some (Text.naturalOf ds, rest) := by
  induction ds with
  | nil =>
      rw [List.nil_append, List.length_nil, number?]
      rfl
  | cons c cs ih =>
      rcases List.forall_mem_cons.mp hDigits with ⟨hFirst, hRest⟩
      rw [List.cons_append, List.length_cons, number?,
        if_pos hFirst, ih hRest, Text.naturalOf_cons]
      rfl

theorem exists_digits_of_number?
    {width n : Nat}
    {cs rest : Text}
    (hRead : number? width cs = some (n, rest)) :
    ∃ ds : Text, ds.length = width ∧
      (∀ c ∈ ds, Text.isAsciiDigit c = true) ∧
      cs = ds ++ rest ∧ n = Text.naturalOf ds := by
  induction width generalizing cs n with
  | zero =>
      rw [number?, Option.some.injEq, Prod.mk.injEq] at hRead
      rcases hRead with ⟨rfl, rfl⟩
      exact ⟨[], rfl, List.forall_mem_nil _, rfl, rfl⟩
  | succ width ih =>
      cases cs with
      | nil => cases hRead
      | cons c cs =>
          rw [number?] at hRead
          split_ifs at hRead with hDigit
          rcases Option.map_eq_some_iff.mp hRead with
            ⟨⟨k, tail⟩, hTail, hBoth⟩
          rw [Prod.mk.injEq] at hBoth
          rcases hBoth with ⟨rfl, rfl⟩
          rcases ih hTail with ⟨ds, hLength, hDigits, rfl, rfl⟩
          refine ⟨c :: ds, by rw [List.length_cons, hLength],
            List.forall_mem_cons.mpr ⟨hDigit, hDigits⟩, rfl, ?_⟩
          rw [Text.naturalOf_cons, hLength]
          rfl

/- A number is read where it is written in so many digits. -/
theorem number?_eq_some_iff
    {width n : Nat}
    {cs rest : Text}
    (hWidth : 0 < width) :
    number? width cs = some (n, rest) ↔
      n < 10 ^ width ∧ cs = paddedDigits width n ++ rest := by
  constructor
  · intro hRead
    rcases exists_digits_of_number? hRead with
      ⟨ds, rfl, hDigits, rfl, rfl⟩
    have hSome : ds ≠ [] := List.length_pos_iff.mp hWidth
    refine ⟨Text.naturalOf_lt hDigits, ?_⟩
    rw [← Text.eq_paddedDigits hSome hDigits]
  · rintro ⟨hBound, rfl⟩
    have hLength := Text.length_paddedDigits hWidth hBound
    have hDigits :
        ∀ c ∈ paddedDigits width n, Text.isAsciiDigit c = true :=
      fun _ => Text.isAsciiDigit_of_mem_paddedDigits
    have hRead := number?_digits hDigits rest
    rwa [hLength, Text.naturalOf_paddedDigits] at hRead

end Iso

end LabelPress

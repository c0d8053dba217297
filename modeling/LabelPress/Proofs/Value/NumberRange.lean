import LabelPress.Outcome
import LabelPress.Proofs.Double.Range
import LabelPress.Proofs.Outcome
import LabelPress.Value.Number

/-
  Values as numbers in the range of doubles.

  A value that should be a number is read as one, or a default
  stands for it, whatever it is.  Only an integer beyond the
  doubles is a fault.

  Main declarations:
    * `Value.FitsDouble`, with `Value.doubleOr_cases`
    * `FailsOnlyTooLarge`
    * `exists_bind_iff`
-/

namespace LabelPress

------------------------------------------------------------
-- Values
------------------------------------------------------------

namespace Value

/- Whether a value is no integer beyond the doubles. -/
def FitsDouble
    (v : Value) :
    Prop :=
  ∀ n, v = .int n → n.natAbs < Double.integerBound

instance
    (v : Value) :
    Decidable v.FitsDouble :=
  match v with
  | .int n =>
      decidable_of_iff (n.natAbs < Double.integerBound)
        ⟨fun hBelow m hSame => Value.int.inj hSame ▸ hBelow,
          fun hFits => hFits n rfl⟩
  | .null | .bool _ | .double _ | .text _ | .list _ | .tuple _
  | .object _ | .date _ | .moment _ | .record .. =>
      .isTrue fun n hSame => by cases hSame

theorem fitsDouble_int_iff
    {n : Int} :
    (Value.int n).FitsDouble ↔ ∃ x, Double.ofInt? n = some x := by
  rw [Double.exists_ofInt?_iff]
  constructor
  · intro hFits
    exact hFits n rfl
  · intro hBelow m hSame
    obtain rfl : n = m := Value.int.inj hSame
    exact hBelow

/- Whatever is no integer fits a double. -/
theorem fitsDouble_of_ne
    {v : Value}
    (hOther : ∀ n, v ≠ .int n) :
    v.FitsDouble :=
  fun n hSame => absurd hSame (hOther n)

theorem fitsDouble_double
    (x : Double) :
    (Value.double x).FitsDouble :=
  fitsDouble_of_ne (by simp)

/- An integer is read as the double that it rounds to. -/
theorem toDouble_int
    {n : Int}
    {x : Double}
    (hRead : Double.ofInt? n = some x) :
    (Value.int n).toDouble = .ok x := by
  rw [toDouble, doubleOfInt, hRead]

/- A value is read as a number, unless it is too large. -/
theorem doubleOr_cases
    (v : Value)
    (default : Double) :
    (v.FitsDouble ∧ ∃ x, v.doubleOr default = .ok x) ∨
      ¬ v.FitsDouble ∧
        v.doubleOr default = .error .integerTooLarge := by
  have hOther :
      (∀ n, v ≠ .int n) → v.FitsDouble := by
    intro hNone n hSame
    exact absurd hSame (hNone n)
  cases v with
  | int n =>
      rw [fitsDouble_int_iff]
      cases hRead : Double.ofInt? n with
      | none =>
          refine .inr ⟨by simp, ?_⟩
          simp only [doubleOr, toDouble, doubleOfInt, hRead]
      | some x =>
          refine .inl ⟨⟨x, rfl⟩, x, ?_⟩
          simp only [doubleOr, toDouble, doubleOfInt, hRead]
  | text s =>
      refine .inl ⟨hOther (by simp), ?_⟩
      cases hRead : Text.double? s with
      | none =>
          exact ⟨default, by simp only [doubleOr, toDouble, hRead]⟩
      | some x =>
          exact ⟨x, by simp only [doubleOr, toDouble, hRead]⟩
  | bool b => exact .inl ⟨hOther (by simp), _, rfl⟩
  | double x => exact .inl ⟨hOther (by simp), _, rfl⟩
  | _ => exact .inl ⟨hOther (by simp), default, rfl⟩

theorem exists_doubleOr_iff
    {v : Value}
    (default : Double) :
    (∃ x, v.doubleOr default = .ok x) ↔ v.FitsDouble := by
  rcases v.doubleOr_cases default with
    ⟨hFits, hRead⟩ | ⟨hLarge, hFault⟩
  · exact iff_of_true hRead hFits
  · refine iff_of_false ?_ hLarge
    rintro ⟨x, hRead⟩
    rw [hFault] at hRead
    cases hRead

end Value

------------------------------------------------------------
-- Faults
------------------------------------------------------------

section Faults

variable {α β : Type}

/- Whether nothing but an integer beyond the doubles is a fault. -/
def FailsOnlyTooLarge
    (r : Except Fault α) :
    Prop :=
  ∀ f, r = .error f → f = .integerTooLarge

theorem failsOnlyTooLarge_ok
    (a : α) :
    FailsOnlyTooLarge (.ok a) :=
  Outcome.failsOnly_ok a

theorem FailsOnlyTooLarge.bind
    {r : Except Fault α}
    {f : α → Except Fault β}
    (hFirst : FailsOnlyTooLarge r)
    (hNext : ∀ a, FailsOnlyTooLarge (f a)) :
    FailsOnlyTooLarge (r >>= f) :=
  Outcome.FailsOnly.bind hFirst hNext

theorem FailsOnlyTooLarge.mapM
    {f : α → Except Fault β}
    (hStep : ∀ a, FailsOnlyTooLarge (f a))
    (as : List α) :
    FailsOnlyTooLarge (as.mapM f) :=
  Outcome.FailsOnly.mapM fun a _ => hStep a

theorem Value.doubleOr_failsOnly
    (v : Value)
    (default : Double) :
    FailsOnlyTooLarge (v.doubleOr default) := by
  intro f hFault
  rcases v.doubleOr_cases default with
    ⟨_, x, hRead⟩ | ⟨_, hLarge⟩
  · rw [hRead] at hFault
    cases hFault
  · rw [hLarge] at hFault
    exact (Except.error.inj hFault).symm

end Faults

------------------------------------------------------------
-- Steps in a Row
------------------------------------------------------------

section Steps

variable {α β : Type}
variable {r : Except Fault α}
variable {f : α → Except Fault β}

/- A row of steps answers when its first and its later ones do. -/
theorem exists_bind_iff
    {P : Prop}
    (hNext : ∀ a, (∃ b, f a = .ok b) ↔ P) :
    (∃ b, (r >>= f) = .ok b) ↔ (∃ a, r = .ok a) ∧ P := by
  constructor
  · rintro ⟨b, hBoth⟩
    rcases Outcome.bind_eq_ok_iff.mp hBoth with ⟨a, ha, hb⟩
    exact ⟨⟨a, ha⟩, (hNext a).mp ⟨b, hb⟩⟩
  · rintro ⟨⟨a, ha⟩, hP⟩
    rcases (hNext a).mpr hP with ⟨b, hb⟩
    exact ⟨b, Outcome.bind_eq_ok_iff.mpr ⟨a, ha, hb⟩⟩

theorem exists_bind_iff_of_forall
    (hNext : ∀ a, ∃ b, f a = .ok b) :
    (∃ b, (r >>= f) = .ok b) ↔ ∃ a, r = .ok a := by
  rw [exists_bind_iff (P := True), and_true]
  intro a
  exact iff_true_intro (hNext a)

end Steps

------------------------------------------------------------
-- Other Readings
------------------------------------------------------------

namespace Value

theorem exists_finiteDouble_iff
    {v : Value} :
    (∃ x, v.finiteDouble = .ok x) ↔ v.FitsDouble := by
  rw [finiteDouble, exists_bind_iff_of_forall]
  · exact exists_doubleOr_iff _
  · intro x
    exact ⟨_, rfl⟩

theorem exists_wholePart_iff
    {v : Value} :
    (∃ n, v.wholePart = .ok n) ↔ v.FitsDouble := by
  rw [wholePart, exists_bind_iff_of_forall]
  · exact exists_doubleOr_iff _
  · intro x
    exact ⟨_, rfl⟩

/- A whole part is never too large to be read again. -/
theorem fitsDouble_wholePart
    {v : Value}
    {n : Int}
    (hWhole : v.wholePart = .ok n) :
    (Value.int n).FitsDouble := by
  rw [wholePart] at hWhole
  rcases Outcome.bind_eq_ok_iff.mp hWhole with ⟨x, _, hPart⟩
  obtain rfl : x.truncate?.getD 0 = n := Except.ok.inj hPart
  rw [fitsDouble_int_iff]
  cases hSome : x.truncate? with
  | none => exact ⟨0, rfl⟩
  | some m => exact Double.exists_ofInt?_truncate? hSome

end Value

end LabelPress

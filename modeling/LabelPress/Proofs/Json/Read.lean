import LabelPress.Json.Reader
import LabelPress.Proofs.Calendar.FixedDigits
import LabelPress.Proofs.Value.Fields
import LabelPress.Proofs.Value.Showing

/-
  Values that JSON texts denote.

  What is read from a text is made of nulls, truth values, numbers
  and texts by lists and objects alone, and its integers are short
  enough to be shown again.

  Main declarations:
    * `Value.IsJson`, `Value.IsJson.checkInspected`
    * `Json.stepsReadJson`
    * `Json.isJson_of_parse`
-/

namespace LabelPress

open Outcome

namespace Value

/-
  Whether a value is of the kinds that JSON has, and no integer in
  it has too long a numeral.
-/
inductive IsJson :
    Value → Prop where
  | null :
      IsJson .null
  | bool
      (b : Bool) :
      IsJson (.bool b)
  | int
      {n : Int}
      (hShort : checkNumeral n = .ok ()) :
      IsJson (.int n)
  | double
      (x : Double) :
      IsJson (.double x)
  | text
      (s : Text) :
      IsJson (.text s)
  | list
      {items : List Value}
      (hItems : ∀ v ∈ items, IsJson v) :
      IsJson (.list items)
  | object
      {fields : Fields}
      (hFields : ∀ field ∈ fields, IsJson field.2) :
      IsJson (.object fields)

/- Such a value can be shown, unless it is too deep in itself. -/
theorem IsJson.checkInspected
    {v : Value}
    (hJson : v.IsJson)
    (levels : Nat) :
    FailsOnly (· = .nestedTooDeep) (v.checkInspected levels) := by
  induction hJson generalizing levels with
  | int hShort =>
      change FailsOnly _ (checkNumeral _)
      rw [hShort]
      exact failsOnly_ok ()
  | list _ ih =>
      exact checkItems_failsOnly_of (P := (· = .nestedTooDeep))
        rfl ih levels
  | object _ ih =>
      exact checkFields_failsOnly_of (P := (· = .nestedTooDeep))
        rfl ih levels
  | _ => exact failsOnly_ok ()

end Value

namespace Json

theorem isJson_of_word?
    {cs rest : Text}
    {v : Value}
    (hWord : word? cs = some (v, rest)) :
    v.IsJson := by
  rcases List.exists_of_findSome?_eq_some hWord with
    ⟨w, hMember, hFound⟩
  have hWords : ∀ w ∈ words, w.2.IsJson := by
    simp only [words, List.forall_mem_cons, List.not_mem_nil,
      false_implies, implies_true, and_true]
    exact ⟨.null, .bool true, .bool false, .double _, .double _,
      .double _⟩
  dsimp only at hFound
  split_ifs at hFound with hHere
  obtain ⟨rfl, _⟩ := Prod.mk.inj (Option.some.inj hFound)
  exact hWords w hMember

/- Whether a step reads nothing but values of these kinds. -/
def ReadsJson
    (r : Except Misread (Value × Text)) :
    Prop :=
  Yields (fun q => q.1.IsJson) r

/- The digits before the point are digits. -/
theorem isAsciiDigit_of_mem_wholeDigits
    (cs : Text) :
    ∀ c ∈ (wholeDigits cs).1, Text.isAsciiDigit c = true := by
  unfold wholeDigits
  split
  · exact List.forall_mem_singleton.mpr rfl
  · exact fun _ => List.mem_takeWhile_imp

/- Digits that are not too many are those of a short numeral. -/
theorem checkNumeral_signed
    {digits : Text}
    (negative : Bool)
    (hDigits : ∀ c ∈ digits, Text.isAsciiDigit c = true)
    (hFew : ¬ Text.maxIntegerDigits < digits.length) :
    Value.checkNumeral
      (Double.signed negative (Text.naturalOf digits)) = .ok () := by
  have hAbs :
      (Double.signed negative (Text.naturalOf digits)).natAbs =
        Text.naturalOf digits := by
    cases negative with
    | true => exact Int.natAbs_neg _
    | false => rfl
  rw [Value.checkNumeral_eq_ok_iff, hAbs]
  exact Nat.lt_of_lt_of_le (Text.naturalOf_lt hDigits)
    (Nat.pow_le_pow_right (by decide) (Nat.le_of_not_lt hFew))

theorem readsJson_number
    (cs : Text) :
    ReadsJson (number cs) := by
  intro r hRead
  unfold number at hRead
  dsimp only at hRead
  split at hRead
  · cases hRead
  · rename_i whole _ _ hDigits
    split_ifs at hRead with hWhole hMany
    · cases hRead
      have hWholeDigits :=
        isAsciiDigit_of_mem_wholeDigits (minus cs).2
      rw [hDigits] at hWholeDigits
      exact .int (checkNumeral_signed _ hWholeDigits hMany)
    · cases hRead
      exact .double _

section Steps

variable {fuel : Nat}

/- The steps of the reader that are known for less fuel. -/
structure StepsReadJson
    (fuel : Nat) :
    Prop where
  value :
    ∀ depth cs, ReadsJson (value fuel depth cs)
  items :
    ∀ depth done cs, (∀ v ∈ done, v.IsJson) →
      ReadsJson (items fuel depth done cs)
  fields :
    ∀ depth done cs, (∀ field ∈ done, field.2.IsJson) →
      ReadsJson (fields fuel depth done cs)

theorem StepsReadJson.value_succ
    (hSteps : StepsReadJson fuel)
    (depth : Nat)
    (cs : Text) :
    ReadsJson (Json.value (fuel + 1) depth cs) := by
  intro r hRead
  unfold Json.value at hRead
  cases cs with
  | nil => cases hRead
  | cons c rest =>
      dsimp only at hRead
      split_ifs at hRead with hQuote hList hObject
      · split at hRead
        · cases hRead
          exact .text _
        · cases hRead
      · split at hRead
        · cases hRead
        · cases hRead
          exact .list (List.forall_mem_nil _)
        · exact hSteps.items _ _ _ (List.forall_mem_nil _) r hRead
      · split at hRead
        · cases hRead
        · cases hRead
          exact .object (List.forall_mem_nil _)
        · exact hSteps.fields _ _ _ (List.forall_mem_nil _) r hRead
      · split at hRead
        · obtain rfl := Except.ok.inj hRead
          exact isJson_of_word? ‹_›
        · exact readsJson_number _ r hRead

theorem StepsReadJson.items_succ
    (hSteps : StepsReadJson fuel)
    (depth : Nat)
    {done : List Value}
    (cs : Text)
    (hDone : ∀ v ∈ done, v.IsJson) :
    ReadsJson (Json.items (fuel + 1) depth done cs) := by
  intro r hRead
  unfold Json.items at hRead
  split at hRead
  · cases hRead
  · rename_i v rest hItem
    have hMore : ∀ w ∈ v :: done, w.IsJson :=
      List.forall_mem_cons.mpr
        ⟨hSteps.value depth cs _ hItem, hDone⟩
    split at hRead
    · cases hRead
      exact .list fun w hMember =>
        hMore w (List.mem_reverse.mp hMember)
    · exact hSteps.items _ _ _ hMore r hRead
    · cases hRead

theorem StepsReadJson.fields_succ
    (hSteps : StepsReadJson fuel)
    (depth : Nat)
    {done : Fields}
    (cs : Text)
    (hDone : ∀ field ∈ done, field.2.IsJson) :
    ReadsJson (Json.fields (fuel + 1) depth done cs) := by
  intro r hRead
  unfold Json.fields at hRead
  cases cs with
  | nil => cases hRead
  | cons c rest =>
      dsimp only at hRead
      split_ifs at hRead with hQuote
      · split at hRead
        · cases hRead
        · split at hRead
          · split at hRead
            · cases hRead
            · rename_i v _ hValue
              have hMore :=
                Fields.forall_mem_set hDone
                  (hSteps.value _ _ _ hValue)
              split at hRead
              · cases hRead
                exact .object (hMore _)
              · exact hSteps.fields _ _ _ (hMore _) r hRead
              · cases hRead
          · cases hRead
      · cases hRead

/- However much fuel there is, no other values are read. -/
theorem stepsReadJson
    (fuel : Nat) :
    StepsReadJson fuel := by
  induction fuel with
  | zero =>
      exact
        { value := fun _ _ r hRead => by cases hRead
          items := fun _ _ _ _ r hRead => by cases hRead
          fields := fun _ _ _ _ r hRead => by cases hRead }
  | succ fuel ih =>
      exact
        { value := ih.value_succ
          items := fun depth _ cs hDone =>
            ih.items_succ depth cs hDone
          fields := fun depth _ cs hDone =>
            ih.fields_succ depth cs hDone }

end Steps

/- The value of a JSON text has the kinds that JSON has. -/
theorem isJson_of_parse
    {depth : Nat}
    {s : Text}
    {v : Value}
    (hParse : parse depth s = .ok v) :
    v.IsJson := by
  unfold parse document at hParse
  split at hParse
  · rename_i w hRead
    obtain rfl : w = v := Except.ok.inj hParse
    split_ifs at hRead with hMark
    · cases hRead
    · split at hRead
      · cases hRead
      · rename_i u rest hValue
        split at hRead
        · obtain rfl : u = w := Except.ok.inj hRead
          exact (stepsReadJson _).value _ _ _ hValue
        · cases hRead
  · cases hParse

end Json

end LabelPress

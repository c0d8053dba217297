import LabelPress.Json.Reader
import Mathlib.Data.List.Basic

/-
  JSON texts and the depth that they are read to.

  A reader that may go deeper reads the same, wherever the other
  one is not stopped by its depth.  So the value of a text is the
  same for all depths at which there is one.

  Main declarations:
    * `Json.AgreesBelow`
    * `Json.stepsAgree`
    * `Json.parse_of_parse`
    * `Json.fields_last`, `Json.fields_misread`
    * `Json.nestedText`, `Json.value_nested`
-/

namespace LabelPress

namespace Json

/-
  Whether a reader is stopped by its depth or agrees with one that
  may go deeper.
-/
def AgreesBelow
    {α : Type}
    (r deeper : Except Misread α) :
    Prop :=
  r = .error .tooDeep ∨ r = deeper

section Steps

variable {fuel : Nat}
variable {depth more : Nat}

/- The steps of the reader that are known for less fuel. -/
structure StepsAgree
    (fuel : Nat) :
    Prop where
  value :
    ∀ {depth more : Nat} (cs : Text), depth ≤ more →
      AgreesBelow (value fuel depth cs) (value fuel more cs)
  items :
    ∀ {depth more : Nat} (done : List Value) (cs : Text),
      depth ≤ more →
        AgreesBelow (items fuel depth done cs)
          (items fuel more done cs)
  fields :
    ∀ {depth more : Nat} (done : Fields) (cs : Text),
      depth ≤ more →
        AgreesBelow (fields fuel depth done cs)
          (fields fuel more done cs)

theorem StepsAgree.value_succ
    (hSteps : StepsAgree fuel)
    (cs : Text)
    (hMore : depth ≤ more) :
    AgreesBelow (Json.value (fuel + 1) depth cs)
      (Json.value (fuel + 1) more cs) := by
  unfold Json.value
  cases cs with
  | nil => exact .inr rfl
  | cons c rest =>
      dsimp only
      split_ifs with hQuote hList hObject
      · exact .inr rfl
      · cases depth with
        | zero => exact .inl rfl
        | succ depth =>
        cases more with
        | zero => exact absurd hMore (Nat.not_succ_le_zero depth)
        | succ more =>
            have hDeeper := Nat.le_of_succ_le_succ hMore
            generalize skipSpace rest = inside
            split
            · contradiction
            · exact .inr rfl
            · rename_i hSame _
              obtain rfl := Nat.succ.inj hSame
              exact hSteps.items _ _ hDeeper
      · cases depth with
        | zero => exact .inl rfl
        | succ depth =>
        cases more with
        | zero => exact absurd hMore (Nat.not_succ_le_zero depth)
        | succ more =>
            have hDeeper := Nat.le_of_succ_le_succ hMore
            generalize skipSpace rest = inside
            split
            · contradiction
            · exact .inr rfl
            · rename_i hSame _
              obtain rfl := Nat.succ.inj hSame
              exact hSteps.fields _ _ hDeeper
      · exact .inr rfl

theorem StepsAgree.items_succ
    (hSteps : StepsAgree fuel)
    (done : List Value)
    (cs : Text)
    (hMore : depth ≤ more) :
    AgreesBelow (Json.items (fuel + 1) depth done cs)
      (Json.items (fuel + 1) more done cs) := by
  unfold Json.items
  rcases hSteps.value cs hMore with hDeep | hSame
  · rw [hDeep]
    exact .inl rfl
  · rw [hSame]
    split
    · exact .inr rfl
    · split
      · exact .inr rfl
      · exact hSteps.items _ _ hMore
      · exact .inr rfl

theorem StepsAgree.fields_succ
    (hSteps : StepsAgree fuel)
    (done : Fields)
    (cs : Text)
    (hMore : depth ≤ more) :
    AgreesBelow (Json.fields (fuel + 1) depth done cs)
      (Json.fields (fuel + 1) more done cs) := by
  unfold Json.fields
  cases cs with
  | nil => exact .inr rfl
  | cons c rest =>
      dsimp only
      split_ifs with hQuote
      · split
        · exact .inr rfl
        · split
          · rename_i _ key _ _ _ rest _
            rcases hSteps.value (skipSpace rest) hMore with
              hDeep | hSame
            · rw [hDeep]
              exact .inl rfl
            · rw [hSame]
              split
              · exact .inr rfl
              · split
                · exact .inr rfl
                · exact hSteps.fields _ _ hMore
                · exact .inr rfl
          · exact .inr rfl
      · exact .inr rfl

end Steps

/- However much fuel there is, a deeper reader reads the same. -/
theorem stepsAgree
    (fuel : Nat) :
    StepsAgree fuel := by
  induction fuel with
  | zero =>
      exact
        { value := fun _ _ => .inr rfl
          items := fun _ _ _ => .inr rfl
          fields := fun _ _ _ => .inr rfl }
  | succ fuel ih =>
      exact
        { value := ih.value_succ
          items := ih.items_succ
          fields := ih.fields_succ }

section Texts

variable {depth more : Nat}
variable {s : Text}
variable {v : Value}

theorem parse_of_le
    (s : Text)
    (hMore : depth ≤ more) :
    parse depth s = .error .nestedTooDeep ∨
      parse depth s = parse more s := by
  unfold parse document
  split_ifs with hMark
  · exact .inr rfl
  · rcases (stepsAgree (2 * s.length + 2)).value (skipSpace s) hMore
      with hDeep | hSame
    · rw [hDeep]
      exact .inl rfl
    · rw [hSame]
      exact .inr rfl

/- A text has its value at every depth that does not stop it. -/
theorem parse_of_parse
    (hParse : parse depth s = .ok v)
    (other : Nat) :
    parse other s = .ok v ∨
      parse other s = .error .nestedTooDeep := by
  rcases Nat.le_total depth other with hMore | hLess
  · rcases parse_of_le s hMore with hDeep | hSame
    · rw [hParse] at hDeep
      cases hDeep
    · exact .inl (hSame.symm.trans hParse)
  · rcases parse_of_le s hLess with hDeep | hSame
    · exact .inr hDeep
    · exact .inl (hSame.trans hParse)

end Texts

------------------------------------------------------------
-- Last Fields
------------------------------------------------------------

section Fields

variable {fuel depth : Nat}
variable {done : Fields}
variable {cs key rest after : Text}
variable {v : Value}
variable {m : Misread}

/- The last field of an object closes it. -/
theorem fields_last
    (hKey : string cs = .ok (key, .char ':' :: rest))
    (hValue :
      value fuel depth (skipSpace rest) =
        .ok (v, .char '\x7d' :: after)) :
    fields (fuel + 1) depth done (Text.doubleQuote :: cs) =
      .ok (.object (done.set key v), after) := by
  have hColon :
      skipSpace (.char ':' :: rest) = .char ':' :: rest := rfl
  have hBrace :
      skipSpace (.char '\x7d' :: after) = .char '\x7d' :: after := rfl
  simp only [fields, if_true, hKey, hColon, hValue, hBrace]

theorem fields_misread
    (hKey : string cs = .ok (key, .char ':' :: rest))
    (hValue : value fuel depth (skipSpace rest) = .error m) :
    fields (fuel + 1) depth done (Text.doubleQuote :: cs) =
      .error m := by
  have hColon :
      skipSpace (.char ':' :: rest) = .char ':' :: rest := rfl
  simp only [fields, if_true, hKey, hColon, hValue]

end Fields

------------------------------------------------------------
-- Lists in Each Other
------------------------------------------------------------

/- An empty list that lies in some lists of one item. -/
def nestedLists :
    Nat → Value
  | 0 => .list []
  | n + 1 => .list [nestedLists n]

/- The text of an empty list that lies in some lists. -/
def nestedText
    (n : Nat) :
    Text :=
  Text.run '[' (n + 1) ++ Text.run ']' (n + 1)

/-
  A list in lists is read to the depth at which it lies.  The
  induction is on the lists around it; each takes two steps and
  one level.
-/
theorem value_nested
    {n fuel : Nat}
    (rest : Text)
    (depth : Nat)
    (hFuel : 2 * n < fuel) :
    value fuel depth
        (Text.run '[' (n + 1) ++ (Text.run ']' (n + 1) ++ rest)) =
      if n < depth then .ok (nestedLists n, rest)
      else .error .tooDeep := by
  induction n generalizing rest depth fuel with
  | zero =>
      cases fuel with
      | zero => omega
      | succ fuel =>
          cases depth with
          | zero => rfl
          | succ depth => rfl
  | succ n ih =>
      have hClosing :
          Text.run ']' (n + 2) ++ rest =
            Text.run ']' (n + 1) ++ (.char ']' :: rest) := by
        unfold Text.run
        rw [List.replicate_succ', List.append_assoc]
        rfl
      rw [hClosing]
      cases fuel with
      | zero => omega
      | succ fuel =>
      cases fuel with
      | zero => omega
      | succ fuel =>
      cases depth with
      | zero => rfl
      | succ depth =>
          have hInner := ih (.char ']' :: rest) depth
            (show 2 * n < fuel by omega)
          change items (fuel + 1) depth []
              (Text.run '[' (n + 1) ++ _) = _
          rw [items, hInner]
          simp only [Nat.succ_lt_succ_iff]
          split_ifs with hDeep
          · rfl
          · rfl

end Json

end LabelPress

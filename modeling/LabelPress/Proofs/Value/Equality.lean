import LabelPress.Value.Basic

/-
  Equality of values.

  Values are compared part by part, so that a value that is read
  can be checked against the one that it should be.

  Main declarations:
    * `Value.same`, `Value.same_iff`
    * the instance of `DecidableEq` for `Value`
-/

namespace LabelPress

namespace Value

mutual

/- Whether two values have the same parts. -/
def same :
    Value → Value → Bool
  | .null, .null => true
  | .bool b, .bool c => b = c
  | .int m, .int n => m = n
  | .double x, .double y => x = y
  | .text s, .text t => s = t
  | .list vs, .list ws => sameItems vs ws
  | .tuple vs, .tuple ws => sameItems vs ws
  | .object fs, .object gs => sameFields fs gs
  | .date d, .date e => d = e
  | .moment m, .moment n => m = n
  | .record k fs, .record l gs => k = l && sameFields fs gs
  | _, _ => false

/- Whether two lists have the same values. -/
def sameItems :
    List Value → List Value → Bool
  | [], [] => true
  | v :: vs, w :: ws => same v w && sameItems vs ws
  | _, _ => false

/- Whether two lists have the same values under the same names. -/
def sameFields :
    Fields → Fields → Bool
  | [], [] => true
  | (key, v) :: fs, (name, w) :: gs =>
      key = name && same v w && sameFields fs gs
  | _, _ => false

end

mutual

theorem same_self
    (v : Value) :
    same v v = true := by
  cases v with
  | null => rfl
  | list vs => exact sameItems_self vs
  | tuple vs => exact sameItems_self vs
  | object fs => exact sameFields_self fs
  | record k fs =>
      exact Bool.and_eq_true_iff.mpr
        ⟨decide_eq_true rfl, sameFields_self fs⟩
  | _ => exact decide_eq_true rfl

theorem sameItems_self
    (vs : List Value) :
    sameItems vs vs = true := by
  cases vs with
  | nil => rfl
  | cons v vs =>
      exact Bool.and_eq_true_iff.mpr
        ⟨same_self v, sameItems_self vs⟩

theorem sameFields_self
    (fs : Fields) :
    sameFields fs fs = true := by
  rcases fs with _ | ⟨⟨key, v⟩, fs⟩
  · rfl
  · have hFirst : (decide (key = key) && same v v) = true :=
      Bool.and_eq_true_iff.mpr ⟨decide_eq_true rfl, same_self v⟩
    exact Bool.and_eq_true_iff.mpr ⟨hFirst, sameFields_self fs⟩

end

mutual

/-
  Values with the same parts are equal.  The induction is on the
  value, with those on its items and on its fields.
-/
theorem eq_of_same
    {v w : Value}
    (hSame : same v w = true) :
    v = w := by
  cases v with
  | null =>
      cases w with
      | null => rfl
      | _ => cases hSame
  | bool b =>
      cases w with
      | bool c => exact congrArg _ (of_decide_eq_true hSame)
      | _ => cases hSame
  | int n =>
      cases w with
      | int m => exact congrArg _ (of_decide_eq_true hSame)
      | _ => cases hSame
  | double x =>
      cases w with
      | double y => exact congrArg _ (of_decide_eq_true hSame)
      | _ => cases hSame
  | text s =>
      cases w with
      | text t => exact congrArg _ (of_decide_eq_true hSame)
      | _ => cases hSame
  | list vs =>
      cases w with
      | list ws => exact congrArg _ (eq_of_sameItems hSame)
      | _ => cases hSame
  | tuple vs =>
      cases w with
      | tuple ws => exact congrArg _ (eq_of_sameItems hSame)
      | _ => cases hSame
  | object fs =>
      cases w with
      | object gs => exact congrArg _ (eq_of_sameFields hSame)
      | _ => cases hSame
  | date d =>
      cases w with
      | date e => exact congrArg _ (of_decide_eq_true hSame)
      | _ => cases hSame
  | moment m =>
      cases w with
      | moment n => exact congrArg _ (of_decide_eq_true hSame)
      | _ => cases hSame
  | record k fs =>
      cases w with
      | record l gs =>
          rcases Bool.and_eq_true_iff.mp hSame with ⟨hKind, hFields⟩
          rw [of_decide_eq_true hKind, eq_of_sameFields hFields]
      | _ => cases hSame

theorem eq_of_sameItems
    {vs ws : List Value}
    (hSame : sameItems vs ws = true) :
    vs = ws := by
  rcases vs with _ | ⟨v, vs⟩
  · rcases ws with _ | ⟨w, ws⟩
    · rfl
    · cases hSame
  · rcases ws with _ | ⟨w, ws⟩
    · cases hSame
    · rcases Bool.and_eq_true_iff.mp hSame with ⟨hFirst, hRest⟩
      rw [eq_of_same hFirst, eq_of_sameItems hRest]

theorem eq_of_sameFields
    {fs gs : Fields}
    (hSame : sameFields fs gs = true) :
    fs = gs := by
  rcases fs with _ | ⟨⟨key, v⟩, fs⟩
  · rcases gs with _ | ⟨⟨name, w⟩, gs⟩
    · rfl
    · cases hSame
  · rcases gs with _ | ⟨⟨name, w⟩, gs⟩
    · cases hSame
    · rcases Bool.and_eq_true_iff.mp hSame with ⟨hFirst, hRest⟩
      rcases Bool.and_eq_true_iff.mp hFirst with ⟨hKey, hValue⟩
      rw [of_decide_eq_true hKey, eq_of_same hValue,
        eq_of_sameFields hRest]

end

theorem same_iff
    {v w : Value} :
    same v w = true ↔ v = w := by
  constructor
  · exact eq_of_same
  · rintro rfl
    exact same_self v

instance :
    DecidableEq Value :=
  fun _ _ => decidable_of_iff _ same_iff

end Value

end LabelPress

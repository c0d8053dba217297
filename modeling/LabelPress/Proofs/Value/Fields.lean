import LabelPress.Value.Basic
import Mathlib.Data.List.Basic

/-
  Fields under their keys.

  Setting a field changes what is found under its key and under
  no other, and the fields of two keys that are both present can
  be set in either order.

  Main declarations:
    * `Fields.get?_set_self`, `Fields.get?_set_of_ne`
    * `Fields.set_set`, `Fields.set_comm`
-/

namespace LabelPress

namespace Fields

theorem get?_cons
    (k key : Text)
    (v : Value)
    (fields : Fields) :
    get? ((k, v) :: fields) key =
      if k = key then some v else get? fields key := by
  unfold get?
  rw [List.lookup_cons]
  by_cases hKey : k = key
  · simp [hKey]
  · have hOther : (key == k) = false :=
      beq_eq_false_iff_ne.mpr (Ne.symm hKey)
    rw [hOther, if_neg hKey]

theorem set_cons
    (k key : Text)
    (v w : Value)
    (fields : Fields) :
    set ((k, v) :: fields) key w =
      if k = key then (k, w) :: fields
      else (k, v) :: set fields key w :=
  rfl

@[simp] theorem get?_set_self
    (fields : Fields)
    (key : Text)
    (v : Value) :
    (fields.set key v).get? key = some v := by
  induction fields with
  | nil => simp [set, get?_cons]
  | cons field fields ih =>
      rcases field with ⟨k, w⟩
      rw [set_cons]
      split_ifs with hKey
      · simp [get?_cons, hKey]
      · simp [get?_cons, hKey, ih]

theorem get?_set_of_ne
    {key other : Text}
    (hKey : key ≠ other)
    (fields : Fields)
    (v : Value) :
    (fields.set key v).get? other = fields.get? other := by
  induction fields with
  | nil => simp [set, get?_cons, hKey]
  | cons field fields ih =>
      rcases field with ⟨k, w⟩
      rw [set_cons]
      split_ifs with hSame
      · subst hSame
        simp [get?_cons, hKey]
      · rw [get?_cons, get?_cons, ih]

@[simp] theorem set_set
    (fields : Fields)
    (key : Text)
    (v w : Value) :
    (fields.set key v).set key w = fields.set key w := by
  induction fields with
  | nil => simp [set]
  | cons field fields ih =>
      rcases field with ⟨k, u⟩
      rw [set_cons, set_cons]
      split_ifs with hKey
      · rw [set_cons, if_pos hKey]
      · rw [set_cons, if_neg hKey, ih]

/- Present fields under two keys can be set in either order. -/
theorem set_comm
    {key other : Text}
    (hKey : key ≠ other)
    {fields : Fields}
    {u : Value}
    (hPresent : fields.get? key = some u)
    (v w : Value) :
    (fields.set key v).set other w =
      (fields.set other w).set key v := by
  induction fields with
  | nil => simp [get?] at hPresent
  | cons field fields ih =>
      rcases field with ⟨k, x⟩
      rw [get?_cons] at hPresent
      simp only [set_cons]
      by_cases hFirst : k = key
      · have hSecond : k ≠ other := hFirst ▸ hKey
        simp [hFirst, hKey, set_cons]
      · rw [if_neg hFirst] at hPresent
        by_cases hSecond : k = other
        · simp [hSecond, Ne.symm hKey, set_cons]
        · simp [hFirst, hSecond, set_cons, ih hPresent]

/- A field that is put keeps its place, or is the last. -/
theorem map_fst_set
    (fields : Fields)
    (key : Text)
    (v : Value) :
    (fields.set key v).map Prod.fst =
      if (fields.map Prod.fst).contains key then
        fields.map Prod.fst
      else fields.map Prod.fst ++ [key] := by
  induction fields with
  | nil => rfl
  | cons field fields ih =>
      rcases field with ⟨k, w⟩
      rw [set_cons, List.map_cons, List.contains_cons]
      by_cases hKey : k = key
      · subst hKey
        simp
      · have hOther : (key == k) = false :=
          beq_eq_false_iff_ne.mpr (Ne.symm hKey)
        rw [if_neg hKey, List.map_cons, ih, hOther,
          Bool.false_or]
        split_ifs
        · rfl
        · rfl

/- A field is there exactly under the keys. -/
theorem exists_get?_iff
    {fields : Fields}
    {key : Text} :
    (∃ v, fields.get? key = some v) ↔
      key ∈ fields.map Prod.fst := by
  induction fields with
  | nil => exact iff_of_false nofun List.not_mem_nil
  | cons field fields ih =>
      rcases field with ⟨k, w⟩
      rw [List.map_cons, List.mem_cons, ← ih, get?_cons]
      by_cases hKey : k = key
      · simp [hKey]
      · simp [hKey, Ne.symm hKey]

/- A field of fields with one put is this one or was there. -/
theorem forall_mem_set
    {P : Value → Prop}
    {fields : Fields}
    {v : Value}
    (hFields : ∀ field ∈ fields, P field.2)
    (hValue : P v)
    (key : Text) :
    ∀ field ∈ fields.set key v, P field.2 := by
  induction fields with
  | nil => exact List.forall_mem_singleton.mpr hValue
  | cons field rest ih =>
      rcases field with ⟨k, w⟩
      rcases List.forall_mem_cons.mp hFields with
        ⟨hFirst, hRest⟩
      rw [set_cons]
      split_ifs with hKey
      · exact List.forall_mem_cons.mpr ⟨hValue, hRest⟩
      · exact List.forall_mem_cons.mpr ⟨hFirst, ih hRest⟩

/- A field that is put shows under no other keys. -/
theorem map_fieldOf_set
    {key : Text}
    {keys : List Text}
    (hKey : key ∉ keys)
    (fields : Fields)
    (v : Value) :
    keys.map (Value.fieldOf (fields.set key v)) =
      keys.map (Value.fieldOf fields) := by
  apply List.map_congr_left
  intro k hMember
  have hOther : key ≠ k := by
    rintro rfl
    exact hKey hMember
  rw [Value.fieldOf, Value.fieldOf, get?_set_of_ne hOther]

end Fields

/- A field that is there is the value under its key. -/
theorem mem_map_fieldOf
    {fields : Fields}
    {key : Text}
    {keys : List Text}
    {v : Value}
    (hKey : key ∈ keys)
    (hGet : fields.get? key = some v) :
    v ∈ keys.map (Value.fieldOf fields) := by
  apply List.mem_map.mpr
  refine ⟨key, hKey, ?_⟩
  rw [Value.fieldOf, hGet]
  rfl

end LabelPress

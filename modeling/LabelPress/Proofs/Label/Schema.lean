import LabelPress.Label.Document
import LabelPress.Proofs.Double.Order
import Mathlib.Tactic.MkIffOfInductiveProp

/-
  The shape of label documents.

  What a document must look like is said here without the checks
  that are made of it.  The checks accept exactly such values and
  blame the document for all others, or fail to, where a part of
  it that they complain about cannot be shown.

  Main declarations:
    * `Value.IsNumber`, `Value.IsLength`, `Value.IsId`
    * `Fields.IsSize`, `Fields.IsRow`, `Fields.IsDocument`
    * `Value.IsPartOf`
    * `Blames`, `Checks`
    * `Shape.checks_document`
-/

namespace LabelPress

------------------------------------------------------------
-- Shapes
------------------------------------------------------------

namespace Value

/- Whether a value is a number; a truth value is none. -/
@[mk_iff] inductive IsNumber :
    Value → Prop where
  | whole
      (n : Int) :
      IsNumber (.int n)
  | double
      (x : Double) :
      IsNumber (.double x)

/-
  Whether a value is a number that is not below zero.  The
  undefined number is not.
-/
@[mk_iff] inductive IsLength :
    Value → Prop where
  | whole
      {n : Int}
      (hn : 0 ≤ n) :
      IsLength (.int n)
  | double
      {x : Double}
      (hx : Double.lt x 0 = false) :
      IsLength (.double x)

/-
  Whether a value may be an id: a text, an integer, or a double
  that is equal to one.
-/
@[mk_iff] inductive IsId :
    Value → Prop where
  | text
      (s : Text) :
      IsId (.text s)
  | whole
      (n : Int) :
      IsId (.int n)
  | integral
      {x : Double}
      {n : Int}
      (hx : x.compareInt? n = some .eq) :
      IsId (.double x)

end Value

namespace Fields

/- Whether fields name the size of a canvas. -/
structure IsSize
    (fields : Fields) :
    Prop where
  width : ∃ v, fields.get? "width" = some v ∧ v.IsLength
  height : ∃ v, fields.get? "height" = some v ∧ v.IsLength

/- Whether fields describe an element. -/
structure IsRow
    (fields : Fields) :
    Prop where
  type : ∃ s, fields.get? "type" = some (.text s)
  id : ∀ v, fields.get? "id" = some v → v.IsId
  numbers :
    ∀ key ∈ (["x", "y", "width", "height", "rotation",
        "zIndex", "z_index"] : List Text),
      ∀ v, fields.get? key = some v → v.IsNumber ∨ v = .null
  properties :
    ∀ v, fields.get? "properties" = some v →
      ∃ given, v = .object given

/- Whether fields describe a document with rows for elements. -/
structure IsDocument
    (fields : Fields)
    (rows : List Fields) :
    Prop where
  elements :
    fields.get? "elements" =
      some (.list (rows.map Value.object))
  elementRows : ∀ row ∈ rows, row.IsRow
  sizes :
    ∀ key ∈ (["canvas", "labelSize"] : List Text),
      ∀ v, fields.get? key = some v →
        ∃ size : Fields, v = .object size ∧ size.IsSize

end Fields

------------------------------------------------------------
-- Checks
------------------------------------------------------------

/- Whether a value is another one or lies in it. -/
inductive Value.IsPartOf
    (w : Value) :
    Value → Prop where
  | whole :
      IsPartOf w w
  | item
      {v : Value}
      {items : List Value}
      (hPart : IsPartOf w v)
      (hMember : v ∈ items) :
      IsPartOf w (.list items)
  | field
      {v : Value}
      {fields : Fields}
      {key : Text}
      (hPart : IsPartOf w v)
      (hGet : fields.get? key = some v) :
      IsPartOf w (.object fields)

section Checks

variable [Machine]
variable {P Q : Prop}
variable {v w : Value}
variable {r : Except Fault Unit}

/-
  How a value is blamed: with a complaint, unless the part of it
  that the complaint would show cannot be shown.
-/
inductive Blames
    (v : Value) :
    Except Fault Unit → Prop where
  | complaining
      (path : List Text)
      (problem : DocumentProblem) :
      Blames v (.error (.invalidDocument path problem))
  | speechless
      {w : Value}
      {f : Fault}
      (hPart : w.IsPartOf v)
      (hShown : w.checkShown .documentComplaint = .error f) :
      Blames v (.error f)

theorem Blames.of_part
    (hBlames : Blames w r)
    (hParts : ∀ u : Value, u.IsPartOf w → u.IsPartOf v) :
    Blames v r := by
  cases hBlames with
  | complaining path problem => exact .complaining path problem
  | speechless hPart hShown => exact .speechless (hParts _ hPart) hShown

/- A complaint about a value is made where the value can be shown. -/
theorem blames_complaint
    (v : Value)
    (path : List Text)
    (problem : DocumentProblem) :
    Blames v
      (v.checkShown .documentComplaint >>= fun _ =>
        .error (.invalidDocument path problem)) := by
  cases hShown : v.checkShown .documentComplaint with
  | ok _ => exact .complaining path problem
  | error f => exact .speechless .whole hShown

/-
  How a check of a condition ends: it passes where the condition
  holds, and else it blames the value that it is made of.
-/
inductive Checks
    (v : Value)
    (P : Prop) :
    Except Fault Unit → Prop where
  | passed
      (hP : P) :
      Checks v P (.ok ())
  | refused
      (hP : ¬ P)
      {r : Except Fault Unit}
      (hBlames : Blames v r) :
      Checks v P r

namespace Checks

theorem congr
    (hSame : P ↔ Q)
    (hCheck : Checks v P r) :
    Checks v Q r := by
  rwa [propext hSame] at hCheck

/- A check of a part is a check of what it is a part of. -/
theorem of_part
    (hCheck : Checks w P r)
    (hParts : ∀ u : Value, u.IsPartOf w → u.IsPartOf v) :
    Checks v P r := by
  cases hCheck with
  | passed hP => exact .passed hP
  | refused hP hBlames => exact .refused hP (hBlames.of_part hParts)

/- A second check may rely on what the first has found. -/
theorem bind
    {next : Except Fault Unit}
    (hFirst : Checks v P r)
    (hNext : P → Checks v Q next) :
    Checks v (P ∧ Q) (r >>= fun _ => next) := by
  cases hFirst with
  | passed hP =>
      exact (hNext hP).congr ⟨fun hQ => ⟨hP, hQ⟩, And.right⟩
  | refused hP hBlames =>
      refine .refused (fun hBoth => hP hBoth.1) ?_
      cases hBlames with
      | complaining path problem => exact .complaining path problem
      | speechless hPart hShown => exact .speechless hPart hShown

/- Checks of the members of a list are a check of them all. -/
theorem forM
    {α : Type}
    {P : α → Prop}
    {check : α → Except Fault Unit}
    (hEach : ∀ a, Checks v (P a) (check a))
    (as : List α) :
    Checks v (∀ a ∈ as, P a) (as.forM check) := by
  induction as with
  | nil => exact .passed (List.forall_mem_nil P)
  | cons a as ih =>
      change Checks _ _ (check a >>= fun _ => as.forM check)
      exact ((hEach a).bind fun _ => ih).congr
        List.forall_mem_cons.symm

end Checks

end Checks

namespace Shape

variable [Machine]
variable {P : Value → Prop}
variable {shape : Shape}
variable {fields : Fields}

theorem checks_ofKinds
    (kinds : List Kind)
    (path : List Text)
    (v : Value) :
    Checks v (∃ k ∈ kinds, k.holds v = true)
      (ofKinds kinds path v) := by
  unfold ofKinds
  split_ifs with hAny
  · exact .passed (List.any_eq_true.mp hAny)
  · exact .refused (fun hSome => hAny (List.any_eq_true.mpr hSome))
      (blames_complaint v path _)

theorem checks_hasKey
    (fields : Fields)
    (path : List Text)
    (key : Text) :
    Checks (.object fields) (∃ v, fields.get? key = some v)
      (hasKey fields path key) := by
  unfold hasKey
  split_ifs with hSome
  · exact .passed (Option.isSome_iff_exists.mp hSome)
  · exact .refused
      (fun hFound => hSome (Option.isSome_iff_exists.mpr hFound))
      (.complaining path (.missingKey key))

theorem checks_property
    (hShape : ∀ path v, Checks v (P v) (shape path v))
    (fields : Fields)
    (path : List Text)
    (key : Text) :
    Checks (.object fields) (∀ v, fields.get? key = some v → P v)
      (property fields path key shape) := by
  unfold property
  cases hGet : fields.get? key with
  | none =>
      refine .passed fun v hFound => ?_
      cases hFound
  | some w =>
      have hPart :
          Checks (.object fields) (P w) (shape (path ++ [key]) w) :=
        (hShape _ w).of_part fun _ hPart => .field hPart hGet
      refine hPart.congr ⟨?_, ?_⟩
      · rintro hP v hFound
        obtain rfl : w = v := Option.some.inj hFound
        exact hP
      · intro hAll
        exact hAll w rfl

/- Each item of a list is checked, whatever the items before. -/
theorem checks_eachFrom
    {root : Value}
    {items : List Value}
    (hShape : ∀ path v, Checks v (P v) (shape path v))
    (hParts :
      ∀ v ∈ items, ∀ u : Value, u.IsPartOf v → u.IsPartOf root)
    (path : List Text)
    (index : Nat) :
    Checks root (∀ v ∈ items, P v)
      (eachFrom shape path index items) := by
  induction items generalizing index with
  | nil => exact .passed (List.forall_mem_nil P)
  | cons v items ih =>
      rw [List.forall_mem_cons] at hParts
      have hFirst :
          Checks root (P v)
            (shape (path ++ [Text.digits 10 index]) v) :=
        (hShape _ v).of_part hParts.1
      exact (hFirst.bind fun _ => ih hParts.2 (index + 1)).congr
        List.forall_mem_cons.symm

theorem checks_listOf
    (hShape : ∀ path v, Checks v (P v) (shape path v))
    (path : List Text)
    (v : Value) :
    Checks v (∃ items, v = .list items ∧ ∀ w ∈ items, P w)
      (listOf shape path v) := by
  have hArray := checks_ofKinds [.array] path v
  cases v with
  | list items =>
      refine (hArray.bind fun _ =>
        checks_eachFrom hShape (fun _ hMember _ hPart =>
          .item hPart hMember) path 0).congr ⟨?_, ?_⟩
      · rintro ⟨_, hItems⟩
        exact ⟨items, rfl, hItems⟩
      · rintro ⟨given, hSame, hItems⟩
        obtain rfl : items = given := Value.list.inj hSame
        exact ⟨⟨.array, List.mem_cons_self, rfl⟩, hItems⟩
  | _ =>
      exact (hArray.bind fun _ => .passed trivial).congr
        (by simp [Kind.holds])

/- An object is checked as its fields are. -/
theorem checks_object
    {Q : Fields → Prop}
    {check : Fields → Except Fault Unit}
    (hFields :
      ∀ fields : Fields,
        Checks (.object fields) (Q fields) (check fields))
    (path : List Text)
    (v : Value) :
    Checks v (∃ fields, v = .object fields ∧ Q fields)
      (ofKinds [.object] path v >>= fun _ =>
        match v with
        | .object fields => check fields
        | _ => .ok ()) := by
  have hObject := checks_ofKinds [.object] path v
  cases v with
  | object fields =>
      refine (hObject.bind fun _ => hFields fields).congr
        ⟨?_, ?_⟩
      · rintro ⟨_, hQ⟩
        exact ⟨fields, rfl, hQ⟩
      · rintro ⟨given, hSame, hQ⟩
        obtain rfl : fields = given := Value.object.inj hSame
        exact ⟨⟨.object, List.mem_cons_self, rfl⟩, hQ⟩
  | _ =>
      exact (hObject.bind fun _ => .passed trivial).congr
        (by simp [Kind.holds])

end Shape

------------------------------------------------------------
-- Checks of Values
------------------------------------------------------------

namespace Double

/- A double compares with zero as it does with the zero integer. -/
theorem compareInt?_zero
    (x : Double) :
    x.compareInt? 0 = compare? x 0 := by
  cases x with
  | nan => rfl
  | infinite s => rfl
  | finite s m e hm =>
      have hSign :
          ∀ k, compare (signed s (scaleUp m k)) 0 =
            compare (signed s m) 0 := by
        intro k
        rw [scaleUp_eq]
        simpa [signed] using compare_signed_mul s false m 0
          (2 ^ k.toNat) (Nat.two_pow_pos _)
      have hSteps : steps 0 = 0 := rfl
      rw [compare?_eq_steps rfl rfl, hSteps, compareInt?,
        Int.zero_mul, steps, hSign, hSign]

/- A double is whole where it is equal to an integer. -/
theorem isIntegral_iff
    {x : Double} :
    x.isIntegral = true ↔ ∃ n, x.compareInt? n = some .eq := by
  cases x with
  | nan => simp [isIntegral, compareInt?]
  | infinite s => cases s with | _ => simp [isIntegral, compareInt?]
  | finite s m e hm =>
      simp only [isIntegral, compareInt?, beq_iff_eq,
        Option.some.injEq, compare_eq_iff_eq,
        ← Nat.dvd_iff_mod_eq_zero]
      constructor
      · rintro ⟨q, hq⟩
        refine ⟨signed s q, ?_⟩
        rw [hq, Nat.mul_comm, signed_mul]
      · rintro ⟨n, hn⟩
        refine ⟨n.natAbs, ?_⟩
        rw [← natAbs_signed s (scaleUp m e), hn, Int.natAbs_mul,
          Int.natAbs_natCast, Nat.mul_comm]

end Double

namespace Kind

variable {v : Value}

theorem exists_number_iff :
    (∃ k ∈ [Kind.number], k.holds v = true) ↔ v.IsNumber := by
  cases v with
  | _ => simp [holds, Value.isNumber_iff]

theorem exists_numberOrNull_iff :
    (∃ k ∈ [Kind.number, Kind.null], k.holds v = true) ↔
      v.IsNumber ∨ v = .null := by
  cases v with
  | _ => simp [holds, Value.isNumber_iff]

theorem exists_id_iff :
    (∃ k ∈ [Kind.string, Kind.integer], k.holds v = true) ↔
      v.IsId := by
  cases v with
  | _ => simp [holds, Value.isId_iff, Double.isIntegral_iff]

theorem exists_string_iff :
    (∃ k ∈ [Kind.string], k.holds v = true) ↔
      ∃ s, v = .text s := by
  cases v with
  | _ => simp [holds]

theorem exists_object_iff :
    (∃ k ∈ [Kind.object], k.holds v = true) ↔
      ∃ fields, v = .object fields := by
  cases v with
  | _ => simp [holds]

end Kind

namespace Shape

variable [Machine]

theorem checks_notBelowZero
    {v : Value}
    (hNumber : v.IsNumber)
    (path : List Text) :
    Checks v v.IsLength (notBelowZero path v) := by
  cases hNumber with
  | whole n =>
      simp only [notBelowZero, Value.numeric?,
        Value.Numeric.compare?, beq_iff_eq, Option.some.injEq,
        compare_lt_iff_lt]
      split_ifs with hBelow
      · have hNone : ¬ (Value.int n).IsLength := by
          simpa [Value.isLength_iff] using hBelow
        exact .refused hNone (blames_complaint _ path _)
      · exact .passed (.whole (not_lt.mp hBelow))
  | double x =>
      simp only [notBelowZero, Value.numeric?, Value.Numeric.compare?,
        Double.compareInt?_zero]
      split_ifs with hBelow
      · have hNone : ¬ (Value.double x).IsLength := by
          simpa [Value.isLength_iff, Double.lt] using hBelow
        exact .refused hNone (blames_complaint _ path _)
      · exact .passed (.double (Bool.eq_false_iff.mpr hBelow))

theorem checks_length
    (path : List Text)
    (v : Value) :
    Checks v v.IsLength (length path v) := by
  have hNumber :
      Checks v v.IsNumber (ofKinds [.number] path v) :=
    (checks_ofKinds [.number] path v).congr Kind.exists_number_iff
  refine (hNumber.bind fun h =>
    checks_notBelowZero h path).congr ⟨And.right, ?_⟩
  intro hLength
  refine ⟨?_, hLength⟩
  cases hLength with
  | whole hn => exact .whole _
  | double hx => exact .double _

theorem checks_size
    (path : List Text)
    (v : Value) :
    Checks v (∃ fields : Fields, v = .object fields ∧ fields.IsSize)
      (size path v) := by
  refine checks_object ?_ path v
  intro fields
  have hLength := checks_property checks_length fields path
  have hSize :=
    (checks_hasKey fields path "width").bind fun _ =>
      (checks_hasKey fields path "height").bind fun _ =>
        (hLength "width").bind fun _ => hLength "height"
  refine hSize.congr ⟨?_, ?_⟩
  · rintro ⟨⟨w, hw⟩, ⟨h, hh⟩, hWidth, hHeight⟩
    exact ⟨⟨w, hw, hWidth w hw⟩, ⟨h, hh, hHeight h hh⟩⟩
  · rintro ⟨⟨w, hw, hWidth⟩, ⟨h, hh, hHeight⟩⟩
    refine ⟨⟨w, hw⟩, ⟨h, hh⟩, ?_, ?_⟩
    · intro v hv
      obtain rfl : w = v := Option.some.inj (hw.symm.trans hv)
      exact hWidth
    · intro v hv
      obtain rfl : h = v := Option.some.inj (hh.symm.trans hv)
      exact hHeight

theorem checks_element
    (path : List Text)
    (v : Value) :
    Checks v (∃ fields : Fields, v = .object fields ∧ fields.IsRow)
      (element path v) := by
  refine checks_object ?_ path v
  intro fields
  have hKinds :
      ∀ kinds key, Checks (.object fields)
        (∀ v, fields.get? key = some v →
          ∃ k ∈ kinds, k.holds v = true)
        (property fields path key (ofKinds kinds)) :=
    fun kinds => checks_property (checks_ofKinds kinds) fields path
  have hNumbers :=
    Checks.forM (hKinds [.number, .null]) numericKeys
  have hRow :=
    (checks_hasKey fields path "type").bind fun _ =>
      (hKinds [.string, .integer] "id").bind fun _ =>
        (hKinds [.string] "type").bind fun _ =>
          hNumbers.bind fun _ => hKinds [.object] "properties"
  simp only [Kind.exists_id_iff, Kind.exists_string_iff,
    Kind.exists_numberOrNull_iff, Kind.exists_object_iff] at hRow
  refine hRow.congr ⟨?_, ?_⟩
  · rintro ⟨⟨v, hv⟩, hId, hType, hNumbers, hProperties⟩
    rcases hType v hv with ⟨s, rfl⟩
    exact ⟨⟨s, hv⟩, hId, hNumbers, hProperties⟩
  · rintro ⟨⟨s, hs⟩, hId, hNumbers, hProperties⟩
    refine ⟨⟨_, hs⟩, hId, ?_, hNumbers, hProperties⟩
    intro v hv
    exact ⟨s, Option.some.inj (hv.symm.trans hs)⟩

end Shape

/- Items that are objects of some kind are a row of fields. -/
theorem exists_rows_iff
    {P : Fields → Prop}
    {items : List Value} :
    (∀ v ∈ items, ∃ fields, v = .object fields ∧ P fields) ↔
      ∃ rows : List Fields, items = rows.map Value.object ∧
        ∀ row ∈ rows, P row := by
  constructor
  · intro hItems
    induction items with
    | nil => exact ⟨[], rfl, List.forall_mem_nil P⟩
    | cons v items ih =>
        rw [List.forall_mem_cons] at hItems
        rcases hItems with ⟨⟨fields, rfl, hP⟩, hLater⟩
        rcases ih hLater with ⟨rows, rfl, hRows⟩
        exact ⟨fields :: rows, rfl,
          List.forall_mem_cons.mpr ⟨hP, hRows⟩⟩
  · rintro ⟨rows, rfl, hRows⟩
    rw [List.forall_mem_map]
    intro row hMember
    exact ⟨row, rfl, hRows row hMember⟩

/- The check of a document passes for documents alone. -/
theorem Shape.checks_document
    [Machine]
    (path : List Text)
    (v : Value) :
    Checks v
      (∃ fields : Fields, v = .object fields ∧
        ∃ rows, fields.IsDocument rows)
      (document path v) := by
  refine checks_object ?_ path v
  intro fields
  -- both sizes are checked, although only one of them is read
  have hSize := checks_property checks_size fields path
  have hElements :=
    checks_property (checks_listOf checks_element) fields path
  have hDocument :=
    (checks_hasKey fields path "elements").bind fun _ =>
      (hSize "canvas").bind fun _ =>
        (hSize "labelSize").bind fun _ => hElements "elements"
  simp only [exists_rows_iff] at hDocument
  refine hDocument.congr ⟨?_, ?_⟩
  · rintro ⟨⟨v, hv⟩, hCanvas, hLabelSize, hElements⟩
    rcases hElements v hv with ⟨items, rfl, rows, rfl, hRows⟩
    exact ⟨rows, hv, hRows, by
      simpa using ⟨hCanvas, hLabelSize⟩⟩
  · rintro ⟨rows, hElements, hRows, hSizes⟩
    refine ⟨⟨_, hElements⟩, hSizes _ (by simp),
      hSizes _ (by simp), ?_⟩
    intro v hv
    obtain rfl := Option.some.inj (hElements.symm.trans hv)
    exact ⟨_, rfl, rows, rfl, hRows⟩

end LabelPress

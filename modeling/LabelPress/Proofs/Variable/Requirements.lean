import LabelPress.Machine.Usual
import LabelPress.Proofs.Value.NumberOrder
import LabelPress.Proofs.Value.NumberRange
import LabelPress.Proofs.Value.Showing
import LabelPress.Variable.Validation

/-
  What a definition asks of a value.

  A value has to fit the type of the variable and to meet each of
  six rules that are set.  It is valid exactly when it does, and
  otherwise the one error in it is about the first requirement
  that it does not meet.

  Main declarations:
    * `VariableType.Fits`
    * `Requirement`, with `Requirement.IsMet`
    * `ValidationRules.IsUsable`
    * `Requirement.Decides`, `first_of_decides`
    * `VariableDefinition.validate_by_requirements`
-/

namespace LabelPress

------------------------------------------------------------
-- Requirements
------------------------------------------------------------

/- The values that a type takes. -/
inductive VariableType.Fits :
    VariableType → Value → Prop where
  | text (s : Text) : Fits .text (.text s)
  | integer (n : Int) : Fits .number (.int n)
  | double
      {x : Double}
      (hDefined : x.isNaN = false) :
      Fits .number (.double x)
  | date (d : Date) : Fits .date (.date d)
  | moment (m : Moment) : Fits .date (.moment m)
  | written
      {s : Text}
      {m : Moment}
      (hRead : Moment.ofText? s = some m) :
      Fits .date (.text s)
  | truth (b : Bool) : Fits .boolean (.bool b)
  | barcode (v : Value) : Fits .barcode v
  | image (v : Value) : Fits .image v

/- What is asked of a value. -/
inductive Requirement where
  | type
  | presence
  | leastLength
  | greatestLength
  | minimum
  | maximum
  | pattern

namespace Requirement

/- The order in which requirements are looked at. -/
def inOrder :
    List Requirement :=
  [type, presence, leastLength, greatestLength, minimum, maximum,
    pattern]

theorem mem_inOrder
    (q : Requirement) :
    q ∈ inOrder := by
  cases q with
  | _ => simp [inOrder]

/-
  Whether a value meets a requirement.  Lengths are asked of texts
  alone and magnitudes of numbers alone.  A bound that is not set
  is no number, so that nothing is below or above it.
-/
def IsMet
    [Machine]
    (t : VariableType)
    (r : ValidationRules)
    (v : Value) :
    Requirement → Prop
  | type => t.Fits v
  | presence =>
      r.required.truthy = true → v ≠ .null ∧ v ≠ .text ""
  | leastLength =>
      ∀ s, v = .text s → ¬ (Value.int s.length).IsBelow r.minLength
  | greatestLength =>
      ∀ s, v = .text s → ¬ r.maxLength.IsBelow (.int s.length)
  | minimum => VariableType.number.Fits v → ¬ v.IsBelow r.minimum
  | maximum => VariableType.number.Fits v → ¬ r.maximum.IsBelow v
  | pattern =>
      ∀ s p, v = .text s → r.pattern = .text p → p ≠ "" →
        ∃ search,
          PatternSearch.ofText (Machine.levels .pattern) p = .ok search ∧
            search.succeeds s = true

/- The complaint about a value that does not meet a requirement. -/
def complaint?
    (t : VariableType)
    (r : ValidationRules) :
    Requirement → Option Complaint
  | type =>
      match t with
      | .text => some .notText
      | .number => some .notNumber
      | .date => some .notDate
      | .boolean => some .notBoolean
      | .barcode => none
      | .image => none
  | presence => some .missing
  | leastLength => some (.tooShort r.minLength.toText)
  | greatestLength => some (.tooLong r.maxLength.toText)
  | minimum => some (.tooSmall r.minimum.toText)
  | maximum => some (.tooLarge r.maximum.toText)
  | pattern => some .noMatch

/- Whether a requirement is the first of some that is not met. -/
def IsFirstBroken
    [Machine]
    (qs : List Requirement)
    (t : VariableType)
    (r : ValidationRules)
    (v : Value)
    (q : Requirement) :
    Prop :=
  ∃ before after, qs = before ++ q :: after ∧
    (∀ p ∈ before, p.IsMet t r v) ∧ ¬ q.IsMet t r v

end Requirement

/-
  Whether a value is a bound: a number, whose integer is in range,
  or null for none.
-/
def Value.IsLimit
    (v : Value) :
    Prop :=
  v.isNull = true ∨ v.FitsDouble ∧ ∃ x, v.numeric? = some x

/- Whether rules have bounds and a pattern that can be used. -/
structure ValidationRules.IsUsable
    [Machine]
    (r : ValidationRules) :
    Prop where
  minLength : r.minLength.IsLimit
  maxLength : r.maxLength.IsLimit
  minimum : r.minimum.IsLimit
  maximum : r.maximum.IsLimit
  pattern :
    r.pattern.truthy = true →
      ∃ p search, r.pattern = .text p ∧
        PatternSearch.ofText (Machine.levels .pattern) p = .ok search

------------------------------------------------------------
-- Checks
------------------------------------------------------------

section Checks

variable {v : Value}

/- A number in range is told from what is none. -/
theorem isDefinedNumber_eq
    (hFits : v.FitsDouble) :
    ∃ defined, isDefinedNumber v = .ok defined ∧
      (defined = true ↔ VariableType.number.Fits v) := by
  cases v with
  | int n =>
      rcases Value.fitsDouble_int_iff.mp hFits with ⟨x, hx⟩
      refine ⟨true, ?_, iff_of_true rfl (.integer n)⟩
      rw [isDefinedNumber, Value.doubleOfInt, hx]
      rfl
  | double x =>
      refine ⟨!x.isNaN, rfl, ?_⟩
      rw [Bool.not_eq_true']
      constructor
      · exact .double
      · rintro ⟨⟩
        assumption
  | _ =>
      refine ⟨false, rfl, iff_of_false Bool.false_ne_true ?_⟩
      rintro ⟨⟩

theorem exists_numeric_of_fits
    (hNumber : VariableType.number.Fits v) :
    ∃ x, v.numeric? = some x := by
  cases hNumber with
  | integer n => exact ⟨.int n, rfl⟩
  | double => exact ⟨.double _, rfl⟩

theorem isDateLike_iff :
    isDateLike v = true ↔ VariableType.date.Fits v := by
  cases v with
  | date d => exact iff_of_true rfl (.date d)
  | moment m => exact iff_of_true rfl (.moment m)
  | text s =>
      rw [isDateLike, Option.isSome_iff_exists]
      constructor
      · rintro ⟨m, hRead⟩
        exact .written hRead
      · rintro ⟨⟩
        exact ⟨_, by assumption⟩
  | _ => exact iff_of_false nofun nofun

theorem isTextValue_iff :
    isTextValue v = true ↔ VariableType.text.Fits v := by
  cases v with
  | text s => exact iff_of_true rfl (.text s)
  | _ => exact iff_of_false nofun nofun

theorem isTruthValue_iff :
    isTruthValue v = true ↔ VariableType.boolean.Fits v := by
  cases v with
  | bool b => exact iff_of_true rfl (.truth b)
  | _ => exact iff_of_false nofun nofun

end Checks

namespace Requirement

variable [Machine]
variable {t : VariableType}
variable {r : ValidationRules}
variable {v : Value}
variable {q : Requirement}

/-
  Whether an answer decides a requirement: no complaint if it is
  met, and else the complaint that belongs to it.
-/
def Decides
    (t : VariableType)
    (r : ValidationRules)
    (v : Value)
    (q : Requirement)
    (answer : Except Fault (Option Complaint)) :
    Prop :=
  q.IsMet t r v ∧ answer = .ok none ∨
    ¬ q.IsMet t r v ∧
      ∃ c, q.complaint? t r = some c ∧ answer = .ok (some c)

theorem decides_complainUnless
    {holds : Bool}
    {c : Complaint}
    (hComplaint : q.complaint? t r = some c)
    (hMet : holds = true ↔ q.IsMet t r v) :
    q.Decides t r v (.ok (complainUnless holds c)) := by
  cases holds with
  | true => exact .inl ⟨hMet.mp rfl, rfl⟩
  | false =>
      refine .inr ⟨fun hHolds => ?_, c, hComplaint, rfl⟩
      exact Bool.false_ne_true (hMet.mpr hHolds)

theorem decides_type
    (hFits : v.FitsDouble) :
    type.Decides t r v (t.complaint? v) := by
  cases t with
  | text => exact decides_complainUnless rfl isTextValue_iff
  | number =>
      rcases isDefinedNumber_eq hFits with
        ⟨defined, hAnswer, hDefined⟩
      rw [VariableType.complaint?, hAnswer]
      exact decides_complainUnless rfl hDefined
  | date => exact decides_complainUnless rfl isDateLike_iff
  | boolean => exact decides_complainUnless rfl isTruthValue_iff
  | barcode => exact .inl ⟨.barcode v, rfl⟩
  | image => exact .inl ⟨.image v, rfl⟩

theorem decides_presence :
    presence.Decides t r v (Rule.required r.required v) := by
  apply decides_complainUnless rfl
  have hNull : v.isNull = true ↔ v = .null := by
    cases v with
    | null => exact iff_of_true rfl rfl
    | _ => exact iff_of_false nofun nofun
  have hEmpty : v.isEmptyText = true ↔ v = .text "" := by
    cases v with
    | text s => simp [Value.isEmptyText]
    | _ => exact iff_of_false nofun nofun
  rw [Bool.not_eq_true', Bool.and_eq_false_imp, IsMet,
    ← not_or, ← hNull, ← hEmpty, ← Bool.or_eq_true,
    Bool.not_eq_true]

section Limits

variable {limit : Value}
variable {bad : Ordering}
variable {x : Value.Numeric}

/- Whether a number does not compare with a limit as it must not. -/
def Keeps
    (limit : Value)
    (bad : Ordering)
    (x : Value.Numeric) :
    Prop :=
  ¬ ∃ y, limit.numeric? = some y ∧ x.compare? y = some bad

omit [Machine] in
theorem keeps_lt_iff
    (hx : v.numeric? = some x) :
    Keeps limit .lt x ↔ ¬ v.IsBelow limit :=
  not_congr (Value.isBelow_iff_compare? hx).symm

omit [Machine] in
theorem keeps_gt_iff
    (hx : v.numeric? = some x) :
    Keeps limit .gt x ↔ ¬ limit.IsBelow v :=
  not_congr (Value.isBelow_iff_compare?_swap hx).symm

/- A bound that is a number can be shown. -/
theorem checkShown_of_numeric
    {y : Value.Numeric}
    (site : Site)
    (hFits : limit.FitsDouble)
    (hy : limit.numeric? = some y) :
    limit.checkShown site = .ok () := by
  cases limit with
  | int n => exact hFits.checkNumeral
  | bool b => rfl
  | double x => rfl
  | _ => cases hy

/- A number is compared with a limit that is set. -/
theorem exists_holds_of_isLimit
    (hLimit : limit.IsLimit)
    (bad : Ordering)
    (x : Value.Numeric)
    (complaint : Text → Complaint) :
    ∃ holds,
      (if limit.isNull then .ok none
        else do
          let order ← Value.compareNumber x limit
          Rule.complainAbout limit (order == some bad) complaint) =
          (.ok (complainUnless holds (complaint limit.toText)) :
            Except Fault (Option Complaint)) ∧
        (holds = true ↔ Keeps limit bad x) := by
  rcases hLimit with hNull | ⟨hFits, y, hy⟩
  · refine ⟨true, if_pos hNull, iff_of_true rfl ?_⟩
    rintro ⟨y, hy, _⟩
    cases limit with
    | null => cases hy
    | _ => cases hNull
  · have hSet : limit.isNull = false := by
      cases limit with
      | null => cases hy
      | _ => rfl
    have hShown := checkShown_of_numeric .limitComplaint hFits hy
    refine ⟨x.compare? y != some bad, ?_, ?_⟩
    · rw [hSet, Value.compareNumber, hy]
      simp only [Bool.false_eq_true, if_false, Outcome.ok_bind]
      unfold Rule.complainAbout complainUnless
      rw [bne, hShown]
      cases x.compare? y == some bad with
      | true => rfl
      | false => rfl
    · rw [bne_iff_ne, Keeps, hy]
      simp

/- The length of a value is asked about if it is a text. -/
theorem decides_length
    {Beyond : Text → Prop}
    {complaint : Text → Complaint}
    (hLimit : limit.IsLimit)
    (hComplaint : q.complaint? t r = some (complaint limit.toText))
    (hMeaning :
      ∀ s : Text, Keeps limit bad (.int s.length) ↔ ¬ Beyond s)
    (hMet : q.IsMet t r v ↔ ∀ s, v = .text s → ¬ Beyond s) :
    q.Decides t r v (Rule.length limit bad complaint v) := by
  cases v with
  | text s =>
      rcases exists_holds_of_isLimit hLimit bad
          (.int s.length) complaint with
        ⟨holds, hAnswer, hKeeps⟩
      rw [Rule.length, hAnswer]
      apply decides_complainUnless hComplaint
      rw [hKeeps, hMeaning, hMet]
      constructor
      · intro hHere u hSame
        obtain rfl : s = u := Value.text.inj hSame
        exact hHere
      · intro hAll
        exact hAll s rfl
  | _ => exact .inl ⟨hMet.mpr nofun, rfl⟩

/- The magnitude of a value is asked about if it is a number. -/
theorem decides_magnitude
    {Beyond : Prop}
    {complaint : Text → Complaint}
    (hFits : v.FitsDouble)
    (hLimit : limit.IsLimit)
    (hComplaint : q.complaint? t r = some (complaint limit.toText))
    (hMeaning :
      ∀ x, v.numeric? = some x → (Keeps limit bad x ↔ ¬ Beyond))
    (hMet :
      q.IsMet t r v ↔ (VariableType.number.Fits v → ¬ Beyond)) :
    q.Decides t r v (Rule.magnitude limit bad complaint v) := by
  rcases isDefinedNumber_eq hFits with ⟨defined, hDefined, hNumber⟩
  rw [Rule.magnitude, hDefined]
  cases defined with
  | false =>
      refine .inl ⟨hMet.mpr fun hHere => ?_, ite_self _⟩
      exact absurd (hNumber.mpr hHere) Bool.false_ne_true
  | true =>
      have hHere : VariableType.number.Fits v := hNumber.mp rfl
      rcases exists_numeric_of_fits hHere with ⟨x, hx⟩
      rcases exists_holds_of_isLimit hLimit bad x complaint with
        ⟨holds, hAnswer, hKeeps⟩
      rw [hx]
      refine hAnswer ▸ decides_complainUnless hComplaint ?_
      rw [hKeeps, hMeaning x hx, hMet]
      exact (imp_iff_right hHere).symm

end Limits

/- A pattern that can be used is searched for in a text. -/
theorem decides_pattern
    (hUsable :
      r.pattern.truthy = true →
        ∃ p search, r.pattern = .text p ∧
          PatternSearch.ofText (Machine.levels .pattern) p =
            .ok search) :
    pattern.Decides t r v (Rule.pattern r.pattern v) := by
  cases v with
  | text s =>
      cases hSet : r.pattern.truthy with
      | false =>
          refine .inl ⟨?_, by unfold Rule.pattern; rw [hSet]; rfl⟩
          intro u p _ hPattern hNonempty
          rw [hPattern] at hSet
          exact absurd (bne_eq_false_iff_eq.mp hSet) hNonempty
      | true =>
          rcases hUsable hSet with ⟨p, search, hPattern, hSearch⟩
          have hAnswer :
              Rule.pattern r.pattern (.text s) =
                .ok (complainUnless (search.succeeds s) .noMatch) := by
            rw [hPattern] at hSet ⊢
            simp only [Rule.pattern, hSet, if_true, hSearch]
          rw [hAnswer]
          apply decides_complainUnless rfl
          constructor
          · intro hFound u o hText hGiven _
            obtain rfl : s = u := Value.text.inj hText
            obtain rfl : p = o :=
              Value.text.inj (hPattern.symm.trans hGiven)
            exact ⟨search, hSearch, hFound⟩
          · intro hMet
            have hNonempty : p ≠ "" := by
              rw [hPattern] at hSet
              exact bne_iff_ne.mp hSet
            rcases hMet s p rfl hPattern hNonempty with
              ⟨found, hFound, hSucceeds⟩
            obtain rfl : search = found :=
              Except.ok.inj (hSearch.symm.trans hFound)
            exact hSucceeds
  | _ => exact .inl ⟨nofun, rfl⟩

------------------------------------------------------------
-- Rules in Order
------------------------------------------------------------

theorem isFirstBroken_cons_self
    (hNot : ¬ q.IsMet t r v)
    (qs : List Requirement) :
    q.IsFirstBroken (q :: qs) t r v :=
  ⟨[], qs, rfl, nofun, hNot⟩

/- What is first broken stays so behind a requirement that is met. -/
theorem IsFirstBroken.cons
    {p : Requirement}
    {qs : List Requirement}
    (hBroken : p.IsFirstBroken qs t r v)
    (hMet : q.IsMet t r v) :
    p.IsFirstBroken (q :: qs) t r v := by
  rcases hBroken with ⟨before, after, hSplit, hBefore, hNot⟩
  refine ⟨q :: before, after, ?_, ?_, hNot⟩
  · rw [hSplit, List.cons_append]
  · exact List.forall_mem_cons.mpr ⟨hMet, hBefore⟩

/-
  Rules that decide requirements find the first that is not met.
  The induction is on the rules, an earlier requirement being met
  whenever the search goes on.
-/
theorem first_of_decides
    {qs : List Requirement}
    {rules : List Rule}
    (hDecides :
      List.Forall₂ (fun q rule => q.Decides t r v (rule v))
        qs rules) :
    (∀ q ∈ qs, q.IsMet t r v) ∧ Rule.first v rules = .ok none ∨
      ∃ (q : Requirement) (c : Complaint),
        q.IsFirstBroken qs t r v ∧ q.complaint? t r = some c ∧
        Rule.first v rules = .ok (some c) := by
  induction hDecides with
  | nil => exact .inl ⟨nofun, rfl⟩
  | @cons q rule qs rules hHere hRest ih =>
      rcases hHere with
        ⟨hMet, hNone⟩ | ⟨hNot, c, hComplaint, hSome⟩
      · have hNext :
            Rule.first v (rule :: rules) = Rule.first v rules := by
          rw [Rule.first, hNone]
          rfl
        rw [hNext]
        rcases ih with
          ⟨hAll, hFirst⟩ | ⟨p, c, hBroken, hComplaint, hFirst⟩
        · exact .inl
            ⟨List.forall_mem_cons.mpr ⟨hMet, hAll⟩, hFirst⟩
        · exact .inr ⟨p, c, hBroken.cons hMet, hComplaint, hFirst⟩
      · refine .inr ⟨q, c, isFirstBroken_cons_self hNot qs,
          hComplaint, ?_⟩
        rw [Rule.first, hSome]
        rfl

/- The type check and the rules decide the requirements. -/
theorem forall_decides
    (hUsable : r.IsUsable)
    (hFits : v.FitsDouble) :
    List.Forall₂ (fun q rule => q.Decides t r v (rule v)) inOrder
      ((fun v => t.complaint? v) :: r.inOrder) :=
  .cons (decides_type hFits)
    (.cons decides_presence
      (.cons
        (decides_length hUsable.minLength rfl
          (fun _ => keeps_lt_iff rfl) Iff.rfl)
        (.cons
          (decides_length hUsable.maxLength rfl
            (fun _ => keeps_gt_iff rfl) Iff.rfl)
          (.cons
            (decides_magnitude hFits hUsable.minimum rfl
              (fun _ => keeps_lt_iff) Iff.rfl)
            (.cons
              (decides_magnitude hFits hUsable.maximum rfl
                (fun _ => keeps_gt_iff) Iff.rfl)
              (.cons (decides_pattern hUsable.pattern) .nil))))))

end Requirement

------------------------------------------------------------
-- Results
------------------------------------------------------------

namespace VariableDefinition

variable {d : VariableDefinition}
variable {r : ValidationRules}
variable {v : Value}

/- The type check comes before the rules. -/
theorem check_eq_first
    [Machine]
    (hRules : d.rules = .record r) :
    d.check v =
      Rule.first v ((fun v => d.type.complaint? v) :: r.inOrder) := by
  rw [check, hRules, Rule.first]
  rcases d.type.complaint? v with fault | (_ | c)
  · rfl
  · rfl
  · rfl

/-
  Validation is the conjunction of the requirements.  With bounds
  and a pattern that can be used, it answers for every value whose
  integer is in range.  A value that does not meet all of them has
  exactly one error, the complaint of the first that is broken.
-/
theorem validate_by_requirements
    [Machine]
    (hRules : d.rules = .record r)
    (hUsable : r.IsUsable)
    (hFits : v.FitsDouble) :
    ∃ result, d.validate v = .ok result ∧
      (result.isValid = true ↔ result.errors = []) ∧
      (result.errors = [] ↔
        ∀ q : Requirement, q.IsMet d.type r v) ∧
      ((∃ q : Requirement, ¬ q.IsMet d.type r v) →
        ∃ (q : Requirement) (c : Complaint),
          q.IsFirstBroken Requirement.inOrder d.type r v ∧
          q.complaint? d.type r = some c ∧
          result.errors = [c.message]) := by
  rcases Requirement.first_of_decides
      (Requirement.forall_decides hUsable hFits) with
    ⟨hAll, hFirst⟩ | ⟨q, c, hBroken, hComplaint, hFirst⟩
  · have hMet (q : Requirement) : q.IsMet d.type r v :=
      hAll q q.mem_inOrder
    refine ⟨{}, ?_, iff_of_true rfl rfl, iff_of_true rfl hMet, ?_⟩
    · rw [validate, check_eq_first hRules, hFirst]
      rfl
    · rintro ⟨q, hNot⟩
      exact absurd (hMet q) hNot
  · refine ⟨ValidationResult.fail {} c.message, ?_,
      iff_of_false nofun nofun, iff_of_false nofun ?_, ?_⟩
    · rw [validate, check_eq_first hRules, hFirst]
      rfl
    · intro hAll
      rcases hBroken with ⟨_, _, _, _, hNot⟩
      exact hNot (hAll q)
    · exact fun _ => ⟨q, c, hBroken, hComplaint, rfl⟩

/- The rules of a code: five characters or more, and a digit. -/
def codeRules :
    ValidationRules :=
  { minLength := .int 5
    pattern := .text "[0-9]" }

theorem isUsable_codeRules :
    codeRules.IsUsable where
  minLength := .inr ⟨by decide, .int 5, rfl⟩
  maxLength := .inl rfl
  minimum := .inl rfl
  maximum := .inl rfl
  pattern := by
    intro _
    have hRead :
        (PatternSearch.ofText (Machine.levels .pattern)
          "[0-9]").toOption.isSome = true := by
      decide +kernel
    rcases hSearch : PatternSearch.ofText (Machine.levels .pattern)
        "[0-9]" with
      _ | search
    · rw [hSearch] at hRead
      cases hRead
    · exact ⟨"[0-9]", search, rfl, hSearch⟩

/-
  Two letters are too short for a code and have no digit in them.
  Their length is the first thing that is wrong.
-/
theorem validate_by_requirements_code :
    let d : VariableDefinition :=
      { name := "code"
        rules := .record codeRules
        nameAccepted := by decide }
    d.validate (.text "ab") =
        .ok ⟨false, ["Minimum length is 5"]⟩ ∧
      ∃ (q : Requirement) (c : Complaint),
        q.IsFirstBroken Requirement.inOrder .text codeRules
          (.text "ab") ∧
        q.complaint? .text codeRules = some c ∧
        c.message = "Minimum length is 5" := by
  intro d
  have hAnswer :
      d.validate (.text "ab") =
        .ok ⟨false, ["Minimum length is 5"]⟩ := rfl
  refine ⟨hAnswer, ?_⟩
  rcases validate_by_requirements (d := d) rfl isUsable_codeRules
      (v := .text "ab") nofun with
    ⟨result, hResult, _, hMet, hBroken⟩
  obtain rfl := Except.ok.inj (hAnswer.symm.trans hResult)
  have hSome :
      ∃ q : Requirement, ¬ q.IsMet .text codeRules (.text "ab") := by
    by_contra hNone
    cases hMet.mpr (not_exists_not.mp hNone)
  rcases hBroken hSome with ⟨q, c, hFirst, hComplaint, hErrors⟩
  exact ⟨q, c, hFirst, hComplaint, (List.cons.inj hErrors).1.symm⟩

end VariableDefinition

end LabelPress

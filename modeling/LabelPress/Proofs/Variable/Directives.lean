import LabelPress.Machine.Usual
import LabelPress.Proofs.Text.Parts
import LabelPress.Proofs.Variable.Rendering

/-
  Directives one after another.

  A format that is put together at a comma has the directives of
  both its parts.  A text goes through those of the first part and
  then through those of the second one, so that formats of texts
  chain.  A number is printed by the first directive that applies
  to it, and those before that one might as well not be there.
  Which directives apply is said here without how they are tried.

  Main declarations:
    * `Directive.split_append`
    * `TextFormat.applyAll_append`, `TextFormat.format_chain`
    * `NumberFormat.Applies`
    * `NumberFormat.perform?_eq_none_iff`
    * `NumberFormat.applyFirst_append`, `NumberFormat.applyFirst_cons`
    * `NumberFormat.exists_format_iff`
    * `NumberFormat.format_first_applicable`
-/

namespace LabelPress

open Outcome

------------------------------------------------------------
-- Lists of Directives
------------------------------------------------------------

namespace Directive

theorem split_append
    (first second : Text) :
    split (first ++ "," ++ second) =
      split first ++ split second := by
  have hText :
      first ++ Text.ofString "," ++ second =
        first ++ .char ',' :: second := by
    simp [Text.ofString]
  unfold split
  rw [hText, Text.partsBetween_append_cons, List.map_append]

theorem split_of_notMem
    {directive : Text}
    (hNone : CodePoint.char ',' ∉ directive) :
    split directive = [Text.trim directive] := by
  unfold split
  rw [Text.partsBetween_of_notMem hNone, List.map_singleton]

/- The number of a directive is read behind its first colon. -/
theorem argument?_eq_some_iff
    {name raw : Text}
    {n : Nat}
    (hName : CodePoint.char ':' ∉ name) :
    argument? (name ++ ":" ++ raw) = some n ↔
      Text.integer? (Text.trim raw) = some (n : Int) := by
  have hText :
      name ++ Text.ofString ":" ++ raw = name ++ .char ':' :: raw := by
    simp [Text.ofString]
  unfold argument?
  rw [hText, Text.onFrom_append_cons hName, List.drop_one,
    List.tail_cons]
  cases hRead : Text.integer? (Text.trim raw) with
  | none => simp only [hRead, reduceCtorEq]
  | some k =>
      simp only [hRead]
      by_cases hNatural : 0 ≤ k
      · rw [if_pos hNatural, Option.some.injEq, Option.some.injEq]
        omega
      · rw [if_neg hNatural, Option.some.injEq]
        refine iff_of_false (Option.some_ne_none n).symm ?_
        omega

theorem asks_iff
    {name directive : Text}
    {n : Nat}
    (hName : CodePoint.char ':' ∉ name) :
    Asks name directive n ↔
      ∃ raw, directive = name ++ ":" ++ raw ∧
        Text.integer? (Text.trim raw) = some (n : Int) := by
  constructor
  · rintro ⟨hNamed, hArgument⟩
    rcases isNamed_iff.mp hNamed with ⟨raw, rfl⟩
    exact ⟨raw, rfl, (argument?_eq_some_iff hName).mp hArgument⟩
  · rintro ⟨raw, rfl, hRead⟩
    exact ⟨isNamed_iff.mpr (List.prefix_append _ raw),
      (argument?_eq_some_iff hName).mpr hRead⟩

end Directive

------------------------------------------------------------
-- Texts
------------------------------------------------------------

namespace TextFormat

variable [Machine]

theorem applyAll_append
    (s : Text)
    (first second : List Text) :
    applyAll s (first ++ second) =
      applyAll s first >>= fun t => applyAll t second := by
  induction first generalizing s with
  | nil => rfl
  | cons directive rest ih =>
      rw [List.cons_append, applyAll, applyAll]
      cases apply directive s with
      | error f => rfl
      | ok t => exact ih t

/-
  A text in a format of two parts is the text in the first part,
  put into the second part.  It fails exactly where one of these
  two steps fails, and with the same fault.
-/
theorem format_chain
    (s first second : Text) :
    format s (first ++ "," ++ second) =
        (format s first >>= fun t => format t second) ∧
      ∀ f,
        format s (first ++ "," ++ second) = .error f ↔
          format s first = .error f ∨
            ∃ t, format s first = .ok t ∧
              format t second = .error f := by
  have hBoth :
      format s (first ++ "," ++ second) =
        (format s first >>= fun t => format t second) := by
    unfold format
    rw [Directive.split_append, applyAll_append]
  refine ⟨hBoth, fun f => ?_⟩
  rw [hBoth]
  exact bind_eq_error_iff

end TextFormat

------------------------------------------------------------
-- Numbers
------------------------------------------------------------

namespace NumberFormat

/-
  Whether a directive applies to a value: a currency or percentage
  or a number of places to what is a double, if that many can be
  asked for, and a width that can be asked for to any value.
-/
inductive Applies
    (v : Value)
    (directive : Text) :
    Prop where
  | currency
      {x : Double}
      (hText : directive = "currency")
      (hNumber : v.toDouble = .ok x)
  | percent
      {x : Double}
      (hText : directive = "percent")
      (hNumber : v.toDouble = .ok x)
  | places
      {raw : Text}
      {n : Nat}
      {x : Double}
      (hText : directive = "decimal:" ++ raw)
      (hCount : Text.integer? (Text.trim raw) = some (n : Int))
      (hPlaces : n ≤ Directive.maxPlaces)
      (hNumber : v.toDouble = .ok x)
  | width
      {raw : Text}
      {n : Nat}
      (hText : directive = "pad:" ++ raw)
      (hCount : Text.integer? (Text.trim raw) = some (n : Int))
      (hWidth : n ≤ Directive.maxWidth)

variable {v : Value}
variable {directive : Text}

theorem asks_places_iff
    {n : Nat} :
    Directive.Asks "decimal" directive n ↔
      ∃ raw, directive = "decimal:" ++ raw ∧
        Text.integer? (Text.trim raw) = some (n : Int) :=
  Directive.asks_iff (by decide)

theorem asks_width_iff
    {n : Nat} :
    Directive.Asks "pad" directive n ↔
      ∃ raw, directive = "pad:" ++ raw ∧
        Text.integer? (Text.trim raw) = some (n : Int) :=
  Directive.asks_iff (by decide)

/- Only a fault that lets the next directive decide is passed. -/
theorem attempt_eq_none_iff
    [Machine]
    {r : Except Fault Text} :
    (attempt directive v r).result = .ok none ↔
      ∃ f, r = .error f ∧ letsPass f = true := by
  cases r with
  | ok s =>
      constructor
      · intro hNone
        cases hNone
      · rintro ⟨f, hFault, _⟩
        cases hFault
  | error g =>
      unfold attempt
      by_cases hPass : letsPass g = true
      · simp only [if_pos hPass, Outcome.result_bind,
          Outcome.result_noteShown]
        exact iff_of_true rfl ⟨g, rfl, hPass⟩
      · simp only [if_neg hPass]
        constructor
        · intro hNone
          cases hNone
        · rintro ⟨f, hFault, hPassed⟩
          rw [← Except.error.inj hFault] at hPassed
          exact absurd hPassed hPass

section Attempts

variable (hNumber : v.IsNumber)

include hNumber

theorem map_passed_iff
    {g : Double → Text} :
    (∃ f, v.toDouble.map g = .error f ∧ letsPass f = true) ↔
      ¬ ∃ x, v.toDouble = .ok x := by
  cases hDouble : v.toDouble with
  | ok x => exact iff_of_false nofun fun hNone => hNone ⟨x, rfl⟩
  | error f =>
      refine iff_of_true
        ⟨f, rfl, letsPass_of_toDouble hNumber hDouble⟩ ?_
      rintro ⟨x, hSome⟩
      cases hSome

theorem decimals_passed_iff
    [Machine]
    {n : Nat} :
    (∃ f, v.toDouble.bind (decimals n) = .error f ∧
        letsPass f = true) ↔
      ¬ (n ≤ Directive.maxPlaces ∧ ∃ x, v.toDouble = .ok x) := by
  cases hDouble : v.toDouble with
  | error f =>
      refine iff_of_true
        ⟨f, rfl, letsPass_of_toDouble hNumber hDouble⟩ ?_
      rintro ⟨_, x, hSome⟩
      cases hSome
  | ok x =>
      change (∃ f, decimals n x = .error f ∧ _) ↔ _
      by_cases hMany : Directive.maxPlaces < n
      · have hFault : decimals n x = .error .widthTooLarge :=
          if_pos hMany
        refine iff_of_true ⟨.widthTooLarge, hFault, rfl⟩ ?_
        exact fun hBoth => Nat.not_lt_of_le hBoth.1 hMany
      · have hPlaces := Nat.le_of_not_lt hMany
        refine iff_of_false ?_ fun hNone => hNone ⟨hPlaces, x, rfl⟩
        rintro ⟨f, hFault, hPassed⟩
        unfold decimals at hFault
        rw [if_neg hMany] at hFault
        split_ifs at hFault with hLong
        rw [← Except.error.inj hFault] at hPassed
        cases hPassed

end Attempts

theorem padded_passed_iff
    [Machine]
    (hShown : v.checkShown .numeral = .ok ())
    {n : Nat} :
    (∃ f, (unformatted v).bind (padded n) = .error f ∧
        letsPass f = true) ↔
      ¬ n ≤ Directive.maxWidth := by
  simp only [padded_unformatted_eq_error_iff, hShown, reduceCtorEq,
    true_and, false_or]
  constructor
  · rintro ⟨f, hCannot, hPassed⟩
    cases hCannot with
    | tooWide hWidest => exact Nat.not_le_of_lt hWidest
    | tooLong => cases hPassed
  · intro hWidest
    exact ⟨_, .tooWide (Nat.lt_of_not_le hWidest), rfl⟩

/-
  A directive is passed over exactly when it does not apply.  By
  cases on what the directive is tried as.
-/
theorem perform?_eq_none_iff
    [Machine]
    (hNumber : v.IsNumber)
    (hShown : v.checkShown .numeral = .ok ()) :
    (perform? directive v).result = .ok none ↔
      ¬ Applies v directive := by
  constructor
  · intro hNone hApplies
    cases hApplies with
    | currency hText hDouble =>
        rw [hText] at hNone
        have hPassed := attempt_eq_none_iff.mp hNone
        exact (map_passed_iff hNumber).mp hPassed ⟨_, hDouble⟩
    | percent hText hDouble =>
        rw [hText] at hNone
        have hPassed := attempt_eq_none_iff.mp hNone
        exact (map_passed_iff hNumber).mp hPassed ⟨_, hDouble⟩
    | places hText hCount hPlaces hDouble =>
        rw [perform?_decimal (asks_places_iff.mpr
          ⟨_, hText, hCount⟩)] at hNone
        have hPassed := attempt_eq_none_iff.mp hNone
        exact (decimals_passed_iff hNumber).mp hPassed
          ⟨hPlaces, _, hDouble⟩
    | width hText hCount hWidth =>
        rw [perform?_pad (asks_width_iff.mpr
          ⟨_, hText, hCount⟩)] at hNone
        have hPassed := attempt_eq_none_iff.mp hNone
        exact (padded_passed_iff hShown).mp hPassed hWidth
  · intro hApart
    unfold perform?
    split_ifs with hDecimal hCurrency hPercent hPad
    · cases hArgument : Directive.argument? directive with
      | none => rfl
      | some places =>
          refine attempt_eq_none_iff.mpr
            ((decimals_passed_iff hNumber).mpr ?_)
          rintro ⟨hPlaces, x, hDouble⟩
          rcases asks_places_iff.mp ⟨hDecimal, hArgument⟩ with
            ⟨raw, hText, hCount⟩
          exact hApart (.places hText hCount hPlaces hDouble)
    · refine attempt_eq_none_iff.mpr
        ((map_passed_iff hNumber).mpr ?_)
      rintro ⟨x, hDouble⟩
      exact hApart (.currency hCurrency hDouble)
    · refine attempt_eq_none_iff.mpr
        ((map_passed_iff hNumber).mpr ?_)
      rintro ⟨x, hDouble⟩
      exact hApart (.percent hPercent hDouble)
    · cases hArgument : Directive.argument? directive with
      | none => rfl
      | some width =>
          refine attempt_eq_none_iff.mpr
            ((padded_passed_iff hShown).mpr fun hWidth => ?_)
          rcases asks_width_iff.mp ⟨hPad, hArgument⟩ with
            ⟨raw, hText, hCount⟩
          exact hApart (.width hText hCount hWidth)
    · rfl

------------------------------------------------------------
-- The First Applicable Directive
------------------------------------------------------------

/-
  Whether the first directive that applies asks for more digits
  than can be held.
-/
def FirstOverfills
    [Machine]
    (v : Value)
    (directives : List Text) :
    Prop :=
  ∃ before directive after,
    directives = before ++ directive :: after ∧
      (∀ d ∈ before, ¬ Applies v d) ∧ Overfills v directive

section Shown

variable [Machine]
variable (hNumber : v.IsNumber)
variable (hShown : v.checkShown .numeral = .ok ())

include hNumber hShown

/- Directives in front that do not apply make no difference. -/
theorem applyFirst_append
    {before : List Text}
    (hBefore : ∀ d ∈ before, ¬ Applies v d)
    (after : List Text) :
    (applyFirst v (before ++ after)).result =
      (applyFirst v after).result := by
  induction before with
  | nil => rfl
  | cons first rest ih =>
      rcases List.forall_mem_cons.mp hBefore with ⟨hFirst, hRest⟩
      have hPassed :=
        (perform?_eq_none_iff hNumber hShown).mpr hFirst
      rw [List.cons_append, applyFirst, Outcome.result_bind,
        hPassed]
      exact ih hRest

/- Directives behind one that applies make no difference. -/
theorem applyFirst_cons
    (hApplies : Applies v directive)
    (rest : List Text) :
    (applyFirst v (directive :: rest)).result =
      (applyFirst v [directive]).result := by
  have hTried : ¬ (perform? directive v).result = .ok none :=
    fun hNone =>
      (perform?_eq_none_iff hNumber hShown).mp hNone hApplies
  rw [applyFirst, applyFirst, Outcome.result_bind,
    Outcome.result_bind]
  cases hResult : (perform? directive v).result with
  | error f => rfl
  | ok s? =>
      cases s? with
      | some s => rfl
      | none => exact absurd hResult hTried

theorem format_eq_error_iff
    {spec : Text}
    {f : Fault} :
    (format v (some spec)).result = .error f ↔
      f = .textTooLong ∧
        FirstOverfills v (Directive.split spec) := by
  rw [BoundValue.result_format, applyFirst_eq_error_iff]
  simp only [perform?_eq_none_iff hNumber hShown,
    perform?_eq_error_iff hNumber, hShown, reduceCtorEq, and_false,
    or_false]
  constructor
  · rintro ⟨before, directive, after, hSplit, hBefore, hFault,
      hHere⟩
    exact ⟨hFault, before, directive, after, hSplit, hBefore,
      hHere⟩
  · rintro ⟨hFault, before, directive, after, hSplit, hBefore,
      hHere⟩
    exact ⟨before, directive, after, hSplit, hBefore, hFault,
      hHere⟩

theorem exists_format_iff
    {spec : Text} :
    (∃ s, (format v (some spec)).result = .ok s) ↔
      ¬ FirstOverfills v (Directive.split spec) := by
  cases hResult : (format v (some spec)).result with
  | ok s =>
      refine iff_of_true ⟨s, rfl⟩ fun hOverfills => ?_
      have hFault :=
        (format_eq_error_iff hNumber hShown).mpr ⟨rfl, hOverfills⟩
      rw [hResult] at hFault
      cases hFault
  | error f =>
      have hFault :=
        (format_eq_error_iff hNumber hShown).mp hResult
      refine iff_of_false ?_ fun hNone => hNone hFault.2
      rintro ⟨s, hAnswer⟩
      cases hAnswer

theorem format_of_none_applies
    {spec : Text}
    (hNone : ∀ d ∈ Directive.split spec, ¬ Applies v d) :
    (format v (some spec)).result = .ok (plain v) := by
  have hPassed := applyFirst_append hNumber hShown hNone []
  rw [List.append_nil] at hPassed
  rw [BoundValue.result_format, Directive.inFormat, Option.elim_some,
    hPassed, applyFirst]
  exact unformatted_of_shown hShown

section TwoParts

variable {first rest : Text}
variable (hOne : CodePoint.char ',' ∉ first)

include hOne

theorem format_of_applies
    (hApplies : Applies v (Text.trim first)) :
    (format v (some (first ++ "," ++ rest))).result =
      (format v (some first)).result := by
  rw [BoundValue.result_format, BoundValue.result_format,
    Directive.inFormat, Directive.inFormat, Option.elim_some,
    Option.elim_some, Directive.split_append,
    Directive.split_of_notMem hOne]
  exact applyFirst_cons hNumber hShown hApplies _

theorem format_of_not_applies
    (hApart : ¬ Applies v (Text.trim first)) :
    (format v (some (first ++ "," ++ rest))).result =
      (format v (some rest)).result := by
  rw [BoundValue.result_format, BoundValue.result_format,
    Directive.inFormat, Directive.inFormat, Option.elim_some,
    Option.elim_some, Directive.split_append,
    Directive.split_of_notMem hOne]
  exact applyFirst_append hNumber hShown
    (List.forall_mem_singleton.mpr hApart) _

end TwoParts

/-
  A number that can be shown is printed by the first directive
  that applies to it, or plainly if none does.  It is printed in
  every format but those whose first applicable directive asks for
  more digits than can be held.
-/
theorem format_first_applicable :
    (∀ spec : Text,
      ((∃ s, (format v (some spec)).result = .ok s) ↔
          ¬ FirstOverfills v (Directive.split spec)) ∧
        FailsOnly (· = .textTooLong)
          (format v (some spec)).result) ∧
    (∀ first rest : Text, CodePoint.char ',' ∉ first →
      (Applies v (Text.trim first) →
          (format v (some (first ++ "," ++ rest))).result =
            (format v (some first)).result) ∧
        (¬ Applies v (Text.trim first) →
          (format v (some (first ++ "," ++ rest))).result =
            (format v (some rest)).result)) ∧
    (format v none).result = .ok (plain v) ∧
    ∀ spec : Text,
      (∀ d ∈ Directive.split spec, ¬ Applies v d) →
        (format v (some spec)).result = .ok (plain v) := by
  refine ⟨fun spec => ⟨exists_format_iff hNumber hShown, ?_⟩,
    fun first rest hOne => ⟨?_, ?_⟩, unformatted_of_shown hShown,
    fun spec => ?_⟩
  · intro f hFault
    exact ((format_eq_error_iff hNumber hShown).mp hFault).1
  · exact format_of_applies hNumber hShown hOne
  · exact format_of_not_applies hNumber hShown hOne
  · exact format_of_none_applies hNumber hShown

end Shown

/- Too many places are passed over, and the width decides. -/
theorem format_first_applicable_width :
    (Value.int 5).IsNumber ∧
      (Value.int 5).checkShown .numeral = .ok () ∧
      (format (.int 5)
          (some "decimal:99999999999,pad:3,currency")).result =
        .ok "005" := by
  have hNumber : (Value.int 5).IsNumber := .whole 5
  have hShown : (Value.int 5).checkShown .numeral = .ok () := rfl
  rcases format_first_applicable hNumber hShown with
    ⟨_, hFirst, _⟩
  have hPlaces :
      ¬ Applies (.int 5) (Text.trim "decimal:99999999999") :=
    (perform?_eq_none_iff hNumber hShown).mp rfl
  have hCount :
      Text.integer? (Text.trim "3") = some ((3 : Nat) : Int) := rfl
  have hWidth : Applies (.int 5) (Text.trim "pad:3") :=
    .width rfl hCount (by decide)
  refine ⟨hNumber, hShown, ?_⟩
  calc
    (format (.int 5)
          (some "decimal:99999999999,pad:3,currency")).result =
        (format (.int 5) (some "pad:3,currency")).result :=
      (hFirst "decimal:99999999999" "pad:3,currency"
        (by decide)).2 hPlaces
    _ = (format (.int 5) (some "pad:3")).result :=
      (hFirst "pad:3" "currency" (by decide)).1 hWidth
    _ = .ok "005" := rfl

/-
  A width that can be asked for is not passed over when so many
  digits cannot be held.
-/
theorem format_widest :
    (format (.int 5) none).result = .ok "5" ∧
      (format (.int 5) (some "pad:9223372036854775807")).result =
        .error .textTooLong :=
  ⟨rfl, rfl⟩

end NumberFormat

end LabelPress

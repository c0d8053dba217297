import LabelPress.Machine.Usual
import LabelPress.Proofs.Substitution.Answers
import LabelPress.Proofs.Substitution.BoundOnce

/-
  Texts resolved with plain values.

  A value that is no record is bound in the family that it belongs
  to.  With such values every text is resolved, unless the value
  of some placeholder cannot be shown or its format asks for more
  characters of it than can be held.

  Main declarations:
    * `Bindings.exists_bind`, `Bindings.isProper_of_bind`
    * `resolve_plain_iff`
-/

namespace LabelPress

open Outcome

namespace Bindings

/- Values can be bound, and are tagged then. -/
theorem exists_bind
    {P : BoundValue → Prop}
    {values : Fields}
    (hValues : ∀ field ∈ values, P (.ofValue field.2)) :
    ∃ rows, (ofFields values).bind.result = .ok (table rows) ∧
      ∀ row ∈ rows, P row.2.classify := by
  refine ⟨_, result_bind_table _, fun row hMember => ?_⟩
  rcases List.mem_filterMap.mp hMember with ⟨given, hGiven, hRow⟩
  rcases List.mem_map.mp hGiven with ⟨field, hField, rfl⟩
  unfold boundRow? at hRow
  split_ifs at hRow with hKept
  obtain rfl := Option.some.inj hRow
  exact hValues field hField

/- Values that are no records are bound to proper ones. -/
theorem isProper_of_bind
    {values : Fields}
    (hPlain : ∀ field ∈ values, field.2.isRecord = false) :
    ∃ rows, (ofFields values).bind.result = .ok (table rows) ∧
      ∀ row ∈ rows, row.2.classify.IsProper :=
  exists_bind fun field hField =>
    BoundValue.isProper_ofValue (hPlain field hField)

end Bindings

/-
  Values that are no records can be bound, and a text is resolved
  with them exactly when the value of no placeholder in it fails
  in its format.  A fault is the one of such a value: it cannot be
  shown, or its format asks for more characters than can be held.
-/
theorem resolve_plain_iff
    [Machine]
    {values : Fields}
    (hPlain : ∀ field ∈ values, field.2.isRecord = false)
    (t : Text) :
    ∃ bound,
      (Bindings.ofFields values).bind.result = .ok bound ∧
        ((∃ u, (resolve (.text t) bound).result = .ok (.text u)) ↔
          ∀ p ∈ references (.text t), ∀ f,
            ¬ bound.FailsAt p f) ∧
        FailsOnly
          (fun f => (f.IsOverlong ∨ f.IsOfShowing) ∧
            ∃ p ∈ references (.text t), bound.FailsAt p f)
          (resolve (.text t) bound).result := by
  rcases Bindings.isProper_of_bind hPlain with
    ⟨rows, hBound, hProper⟩
  have hText :
      (∃ u, (resolve (.text t) (.table rows)).result =
          .ok (.text u)) ↔
        ∃ w, (resolve (.text t) (.table rows)).result = .ok w := by
    rw [result_resolve_text]
    cases Piece.resolved (.table rows) (pieces t) with
    | ok u => exact iff_of_true ⟨u, rfl⟩ ⟨_, rfl⟩
    | error f => exact iff_of_false nofun nofun
  refine ⟨.table rows, hBound, ?_, ?_⟩
  · rw [hText, exists_resolve_iff]
    exact forall₂_congr fun p _ => Placeholder.canFill_iff hProper
  · refine resolve_failsOnly fun p hMember f hFault => ?_
    have hFails :=
      (Placeholder.resolve_eq_error_iff hProper).mp hFault
    rcases hFails with ⟨given, hGet, hValue⟩
    have hCause : f.IsOverlong ∨ f.IsOfShowing :=
      hValue.cause.symm.imp And.left And.left
    exact ⟨hCause, p, hMember, given, hGet, hValue⟩

/-
  A text filled up to a width, and a number whose format asks for
  a width that is passed over.
-/
theorem resolve_plain_iff_passed_over :
    let values : Fields := [("a", .text "x"), ("n", .int 5)]
    let bound : Bindings :=
      .table [("a", .bound ⟨.string, .text "x"⟩),
        ("n", .bound ⟨.number, .int 5⟩)]
    let t : Text :=
      "\x7b\x7ba|pad:3\x7d\x7d\x7b\x7bn|pad:99999999999999999999\x7d\x7d"
    (∀ field ∈ values, field.2.isRecord = false) ∧
      (Bindings.ofFields values).bind.result = .ok bound ∧
      ∃ u, (resolve (.text t) bound).result = .ok (.text u) := by
  intro values bound t
  have hPlain : ∀ field ∈ values, field.2.isRecord = false := by
    intro field hMember
    rcases List.mem_pair.mp hMember with rfl | rfl
    · rfl
    · rfl
  have hBind :
      (Bindings.ofFields values).bind.result = .ok bound := by
    rfl
  have hReferences :
      references (.text t) =
        [.ofContent "a|pad:3",
          .ofContent "n|pad:99999999999999999999"] := by
    rfl
  rcases resolve_plain_iff hPlain t with ⟨given, hGiven, hIff, _⟩
  obtain rfl : bound = given :=
    Except.ok.inj (hBind.symm.trans hGiven)
  refine ⟨hPlain, hBind, hIff.mpr ?_⟩
  rw [hReferences]
  rintro p hMember f ⟨b, hGet, hFails⟩
  rcases List.mem_pair.mp hMember with rfl | rfl
  · obtain rfl : Binding.bound ⟨.string, .text "x"⟩ = b :=
      Option.some.inj (Except.ok.inj hGet)
    rcases hFails with hHidden |
      ⟨before, directive, after, hSplit, _, s, n, _, hAsks, hCannot⟩
    · cases hHidden
    · have hMember :
          directive ∈ Directive.inFormat
            (Placeholder.ofContent "a|pad:3").format := by
        rw [hSplit]
        exact List.mem_append_right before List.mem_cons_self
      obtain rfl : directive = "pad:3" :=
        List.mem_singleton.mp hMember
      obtain rfl : 3 = n := Option.some.inj hAsks.2
      exact absurd hCannot.min_lt (by decide)
  · obtain rfl : Binding.bound ⟨.number, .int 5⟩ = b :=
      Option.some.inj (Except.ok.inj hGet)
    rcases hFails with hHidden |
      ⟨before, directive, after, hSplit, _, _, hOverfills⟩
    · cases hHidden.2
    · have hMember :
          directive ∈ Directive.inFormat
            (Placeholder.ofContent
              "n|pad:99999999999999999999").format := by
        rw [hSplit]
        exact List.mem_append_right before List.mem_cons_self
      obtain rfl : directive = "pad:99999999999999999999" :=
        List.mem_singleton.mp hMember
      cases hOverfills with
      | places hAsks => exact absurd hAsks.1 (by decide)
      | @width n hAsks _ _ hWidth =>
          obtain rfl : 99999999999999999999 = n :=
            Option.some.inj hAsks.2
          exact absurd hWidth (by decide)

/-
  A width beyond what can be asked for keeps a text from being
  resolved.
-/
theorem resolve_plain_too_wide :
    let values : Fields := [("a", .text "x")]
    let t : Text := "\x7b\x7ba|pad:99999999999999999999\x7d\x7d"
    ∃ bound,
      (Bindings.ofFields values).bind.result = .ok bound ∧
        (resolve (.text t) bound).result =
          .error .widthTooLarge :=
  ⟨.table [("a", .bound ⟨.string, .text "x"⟩)], by rfl, by rfl⟩

end LabelPress

import LabelPress.Proofs.Printer.Collapsing

/-
  Streams that are shortened twice.

  An origin on three lines in a row is left on two by one call,
  and a second call shortens the stream once more.  Repeats that
  collapsing leaves are all that is left to a second call: joining
  fields makes no repeats and ends none, and no fields are left to
  join.

  Main declarations:
    * `Optimizer.Joined`, `Optimizer.passed_joinFields`
    * `Optimizer.IsOrigin.pair_joinFields_iff`
    * `Optimizer.repeats_joinFields_iff`
    * `Optimizer.joinFields_joinFields`
    * `optimizeCode_idempotent_iff`
-/

namespace LabelPress

namespace Optimizer

------------------------------------------------------------
-- Joining as a Pass
------------------------------------------------------------

/- What is joined: the end of a field before a text field. -/
def Joined
    (s written rest : Text) :
    Prop :=
  written = "^FS" ∧ s = "^FS\n" ++ rest ∧
    startsTextField rest = true

theorem passed_joinFields
    (code : Text) :
    Passed Joined code (joinFields code) := by
  fun_induction joinFields code with
  | case1 cs hStarts ih => exact .apply ⟨rfl, rfl, hStarts⟩ ih
  | case2 cs hNone ih =>
      refine .keep ?_ (.keep ?_ (.keep ?_ (.keep ?_ ih)))
      · rintro written rest ⟨_, hText, hStarts⟩
        have hBoth :
            Text.ofString "^FS\n" ++ cs = "^FS\n" ++ rest := hText
        obtain rfl := List.append_cancel_left hBoth
        exact hNone hStarts
      all_goals
        rintro written rest ⟨_, hText, _⟩
        exact absurd (List.head_eq_of_cons_eq hText) (by decide)
  | case3 c cs hOther ih =>
      refine .keep ?_ ih
      rintro written rest ⟨_, hText, _⟩
      obtain ⟨rfl, rfl⟩ := List.cons.inj hText
      exact hOther rest rfl rfl
  | case4 => exact .nil

theorem isMarked_joined :
    IsMarked Joined "^FS" := by
  rintro s written rest ⟨rfl, rfl, _⟩
  exact ⟨⟨"\n" ++ rest, rfl⟩, List.prefix_rfl⟩

theorem Joined.length_lt
    (s written rest : Text)
    (hJoined : Joined s written rest) :
    (written ++ rest).length < s.length := by
  rcases hJoined with ⟨rfl, rfl, _⟩
  rw [List.length_append, List.length_append]
  exact Nat.add_lt_add_right (by decide) rest.length

/- No end of a field begins in an origin. -/
theorem IsOrigin.avoids_end
    {o : Text}
    (hOrigin : IsOrigin o) :
    Text.Avoids "^FS" o := by
  have hStarts := hOrigin.starts
  rcases hOrigin.exists_tail with ⟨tail, rfl, hNone⟩
  refine Text.Avoids.cons (fun after hEnd => ?_)
    (Text.avoids_of_notMem hNone)
  have hBoth : Text.ofString "^FO" <+: .char '^' :: (tail ++ after) :=
    hStarts.trans (List.prefix_append _ after)
  have hSame :=
    (List.prefix_of_prefix_length_le hBoth hEnd
      (by decide)).eq_of_length (by decide)
  exact absurd hSame (by decide)

theorem avoids_newline :
    Text.Avoids "^FS" [.char '\n'] :=
  Text.avoids_of_notMem (by decide)

/- Joining fields makes no two lines with origins, nor ends any. -/
theorem IsOrigin.pair_joinFields_iff
    {o next code : Text}
    (ho : IsOrigin o)
    (hNext : IsOrigin next) :
    o ++ .char '\n' :: next <:+: joinFields code ↔
      o ++ .char '\n' :: next <:+: code := by
  have hTaken :
      ∀ s written rest, Joined s written rest →
        ∃ d taken e given, s = d :: (taken ++ rest) ∧
          .char '^' ∉ taken ∧ written = e :: given ∧
            .char '^' ∉ given := by
    rintro s written rest ⟨rfl, rfl, _⟩
    exact ⟨.char '^', "FS\n", .char '^', "FS", rfl, by decide,
      rfl, by decide⟩
  have hAvoids : Text.Avoids "^FS" (o ++ .char '\n' :: next) :=
    ho.avoids_end.append (avoids_newline.append hNext.avoids_end)
  rcases ho.exists_tail with ⟨tail, hText, _⟩
  rw [hText, List.cons_append] at hAvoids ⊢
  exact (passed_joinFields code).infix_iff isMarked_joined hAvoids
    hTaken

theorem repeats_joinFields_iff
    {code : Text} :
    Repeats (joinFields code) ↔ Repeats code :=
  exists_congr fun _ => and_congr_right fun ho =>
    ho.pair_joinFields_iff ho

/- No end of a field begins in the start of a text field. -/
theorem IsOrigin.avoids_textField
    {o : Text}
    (hOrigin : IsOrigin o) :
    Text.Avoids "^FS" ("FS\n" ++ (o ++ "^A")) := by
  have hLetter :
      Text.Avoids "^FS" [.char '^', .char 'A'] := by
    refine Text.Avoids.cons (fun after hEnd => ?_)
      (Text.avoids_of_notMem (by decide))
    have hSecond := (List.cons_prefix_cons.mp hEnd).2
    exact absurd (List.cons_prefix_cons.mp hSecond).1 (by decide)
  have hBefore : Text.Avoids "^FS" "FS\n" :=
    Text.avoids_of_notMem (by decide)
  exact hBefore.append (hOrigin.avoids_end.append hLetter)

/-
  Nothing is left to join.  An end of a field that was written
  stands right before an origin, and one that was copied stands
  before what no text field began with.
-/
theorem not_joined_of_passed
    {s t s' written rest : Text}
    (hEnds : s' <:+ t)
    (hPassed : Passed Joined s t) :
    ¬ Joined s' written rest := by
  rintro ⟨_, rfl, hStarts⟩
  rcases startsTextField_iff.mp hStarts with ⟨o, ho, after, rfl⟩
  have hMark :
      Text.ofString "^FS\n" =
        .char '^' :: Text.ofString "FS\n" := rfl
  rw [hMark, List.cons_append, ← List.append_assoc] at hEnds
  induction hPassed with
  | nil => cases List.suffix_nil.mp hEnds
  | @keep c cs left hKept hRest ih =>
      rcases List.suffix_cons_iff.mp hEnds with hHere | hLater
      · obtain ⟨rfl, rfl⟩ := List.cons.inj hHere
        rcases hRest.append_right isMarked_joined
            ho.avoids_textField with ⟨behind, rfl, _⟩
        have hField :
            startsTextField (o ++ "^A" ++ behind) = true :=
          startsTextField_iff.mpr
            ⟨o, ho, List.prefix_append _ behind⟩
        refine hKept "^FS" _ ⟨rfl, ?_, hField⟩
        simp only [hMark, List.cons_append, List.append_assoc]
      · exact ih hLater
  | @apply s written rest left hJoined hRest ih =>
      rcases hJoined with ⟨rfl, rfl, hField⟩
      rcases List.suffix_cons_iff.mp hEnds with hHere | hLater
      · rcases startsTextField_iff.mp hField with ⟨p, hp, hText⟩
        have hFirst : p <+: left :=
          (hRest.prefix_iff isMarked_joined hp.avoids_end).mpr
            ((List.prefix_append p _).trans hText)
        have hLeft :
            Text.ofString "^FS" ++
                .char '\n' :: (o ++ Text.ofString "^A" ++ after) =
              Text.ofString "^FS" ++ left := by
          rw [← List.append_assoc] at hHere
          exact hHere
        rw [← List.append_cancel_left hLeft] at hFirst
        rcases hp.exists_tail with ⟨tail, rfl, _⟩
        exact absurd (List.cons_prefix_cons.mp hFirst).1
          (by decide)
      · have hNone : .char '^' ∉ Text.ofString "FS" := by decide
        exact ih (Text.suffix_of_suffix_append hNone hLater)

theorem joinFields_joinFields
    (code : Text) :
    joinFields (joinFields code) = joinFields code :=
  (passed_joinFields (joinFields code)).eq_self
    fun _ hEnds _ _ =>
      not_joined_of_passed hEnds (passed_joinFields code)

------------------------------------------------------------
-- Shortening Twice
------------------------------------------------------------

section Shorten

variable {code : Text}

theorem repeats_shorten_iff
    (isZpl : Bool) :
    Repeats (shorten isZpl code) ↔ RepeatsThrough code := by
  cases isZpl with
  | false => exact repeats_collapse_iff
  | true => exact repeats_joinFields_iff.trans repeats_collapse_iff

theorem shorten_eq_of_not_repeats
    {isZpl : Bool}
    (hOnce : ¬ Repeats (shorten isZpl code)) :
    shorten isZpl (shorten isZpl code) = shorten isZpl code := by
  have hKept :
      collapse 0 (shorten isZpl code) = shorten isZpl code := by
    refine collapse_eq_self fun s hEnds o rest hRepeated => ?_
    exact hOnce (repeats_iff_exists_repeated.mpr
      ⟨s, o, rest, hEnds, hRepeated⟩)
  cases isZpl with
  | false => exact hKept
  | true =>
      change joinFields (collapse 0 _) = _
      rw [hKept]
      exact joinFields_joinFields (collapse 0 code)

theorem length_shorten_lt
    (isZpl : Bool)
    (hRepeats : Repeats code) :
    (shorten isZpl code).length < code.length := by
  rcases repeats_iff_exists_repeated.mp hRepeats with
    ⟨s', o, rest, hEnds, hRepeated⟩
  have hShorter :
      (collapse 0 code).length < code.length :=
    (passed_collapse code).length_lt Repeated.length_lt hEnds
      hRepeated
  have hJoined :
      (joinFields (collapse 0 code)).length ≤
        (collapse 0 code).length :=
    (passed_joinFields _).length_le Joined.length_lt
  cases isZpl with
  | false => exact hShorter
  | true => exact hJoined.trans_lt hShorter

theorem shorten_shorten_iff
    (isZpl : Bool) :
    shorten isZpl (shorten isZpl code) = shorten isZpl code ↔
      ¬ RepeatsThrough code := by
  rw [← repeats_shorten_iff isZpl]
  constructor
  · intro hSame hRepeats
    have hShorter := length_shorten_lt isZpl hRepeats
    rw [hSame] at hShorter
    exact Nat.lt_irrefl _ hShorter
  · exact shorten_eq_of_not_repeats

end Shorten

end Optimizer

/-
  A second call changes nothing exactly when no origin is repeated
  through a line of its own, and one call leaves a repeated origin
  exactly in the other case.
-/
theorem optimizeCode_idempotent_iff
    (code protocol : Text) :
    (optimizeCode (optimizeCode code protocol) protocol =
        optimizeCode code protocol ↔
      ¬ Optimizer.RepeatsThrough code) ∧
    (Optimizer.Repeats (optimizeCode code protocol) ↔
      Optimizer.RepeatsThrough code) :=
  ⟨Optimizer.shorten_shorten_iff _, Optimizer.repeats_shorten_iff _⟩

/- An origin on three lines is left on two by one call. -/
theorem optimizeCode_thrice :
    optimizeCode "^FO1,1\n^FO1,1\n^FO1,1" "ZPL" =
        "^FO1,1\n^FO1,1" ∧
      optimizeCode
          (optimizeCode "^FO1,1\n^FO1,1\n^FO1,1" "ZPL") "ZPL" =
        "^FO1,1" := by
  decide +kernel

end LabelPress

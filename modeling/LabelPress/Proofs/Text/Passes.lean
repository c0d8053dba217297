import LabelPress.Proofs.Text.Lines

/-
  Passes over texts.

  A pass goes over a text from left to right.  Where a rule takes
  a part of the text it writes a new one, which is not looked at
  again, and any other character is copied.  All that a rule takes
  or writes begins with its mark, so that parts in which no mark
  begins are found in the text and in what comes of it alike.

  Main declarations:
    * `Text.Avoids`
    * `Passed`
    * `Passed.append_of_none`
    * `Passed.append_left`, `Passed.append_right`
    * `Passed.prefix_iff`, `Passed.infix_iff`
    * `Passed.eq_self`, `Passed.length_lt`
-/

namespace LabelPress

------------------------------------------------------------
-- Marks
------------------------------------------------------------

namespace Text

/-
  Whether a mark begins nowhere in a text, whatever comes behind
  the text.
-/
def Avoids
    (mark t : Text) :
    Prop :=
  ∀ s, s <:+ t → s ≠ [] → ∀ after, ¬ mark <+: s ++ after

variable {mark s t : Text}

theorem Avoids.cons
    {c : CodePoint}
    (hHere : ∀ after, ¬ mark <+: c :: (t ++ after))
    (hAvoids : Avoids mark t) :
    Avoids mark (c :: t) := by
  intro s hEnds hSome after
  rcases List.suffix_cons_iff.mp hEnds with rfl | hLater
  · exact hHere after
  · exact hAvoids s hLater hSome after

theorem Avoids.tail
    {c : CodePoint}
    (hAvoids : Avoids mark (c :: t)) :
    Avoids mark t :=
  fun s hEnds => hAvoids s (hEnds.trans (List.suffix_cons c t))

theorem Avoids.not_prefix
    {c : CodePoint}
    (hAvoids : Avoids mark (c :: t))
    (after : Text) :
    ¬ mark <+: c :: (t ++ after) :=
  hAvoids (c :: t) List.suffix_rfl (List.cons_ne_nil c t) after

theorem Avoids.append
    (hFirst : Avoids mark s)
    (hSecond : Avoids mark t) :
    Avoids mark (s ++ t) := by
  induction s with
  | nil => exact hSecond
  | cons c s ih =>
      rw [List.cons_append]
      refine Avoids.cons (fun after => ?_) (ih hFirst.tail)
      rw [List.append_assoc]
      exact hFirst.not_prefix (t ++ after)

/- No mark begins in a text without its first character. -/
theorem avoids_of_notMem
    {c : CodePoint}
    {rest : Text}
    (hNone : c ∉ t) :
    Avoids (c :: rest) t := by
  intro s hEnds hSome after hStarts
  cases s with
  | nil => exact hSome rfl
  | cons d s =>
      obtain rfl := (List.cons_prefix_cons.mp hStarts).1
      exact hNone (hEnds.subset List.mem_cons_self)

/- What starts behind a text starts nowhere in it. -/
theorem suffix_of_suffix_append
    {c : CodePoint}
    (hNone : c ∉ s)
    {u : Text}
    (hEnds : c :: u <:+ s ++ t) :
    c :: u <:+ t := by
  induction s with
  | nil => exact hEnds
  | cons d s ih =>
      rw [List.mem_cons, not_or] at hNone
      rcases List.suffix_cons_iff.mp hEnds with hHere | hLater
      · exact absurd (List.cons.inj hHere).1 hNone.1
      · exact ih hNone.2 hLater

theorem infix_append_iff
    {c : CodePoint}
    (hNone : c ∉ s)
    {u : Text} :
    c :: u <:+: s ++ t ↔ c :: u <:+: t := by
  constructor
  · intro hInside
    rcases List.infix_iff_prefix_suffix.mp hInside with
      ⟨v, ⟨after, rfl⟩, hEnds⟩
    rw [List.cons_append] at hEnds
    have hLater := suffix_of_suffix_append hNone hEnds
    exact (List.prefix_append (c :: u) after).isInfix.trans
      hLater.isInfix
  · intro hInside
    exact hInside.trans (List.suffix_append s t).isInfix

end Text

------------------------------------------------------------
-- Passes
------------------------------------------------------------

/-
  A text and what comes of it in one pass.  A rule relates a text
  that it applies to with what it writes and with the rest.
-/
inductive Passed
    (Rule : Text → Text → Text → Prop) :
    Text → Text → Prop where
  | nil : Passed Rule [] []
  | keep
      {c : CodePoint}
      {cs left : Text}
      (hNone : ∀ written rest, ¬ Rule (c :: cs) written rest)
      (hRest : Passed Rule cs left) :
      Passed Rule (c :: cs) (c :: left)
  | apply
      {s written rest left : Text}
      (hRule : Rule s written rest)
      (hRest : Passed Rule rest left) :
      Passed Rule s (written ++ left)

/- Whether what a rule takes and writes begins with a mark. -/
def IsMarked
    (Rule : Text → Text → Text → Prop)
    (mark : Text) :
    Prop :=
  ∀ s written rest, Rule s written rest →
    mark <+: s ∧ mark <+: written

namespace Passed

variable {Rule : Text → Text → Text → Prop}
variable {mark u s t rest left : Text}

/- A part in which no rule applies anywhere is copied. -/
theorem append_of_none
    (hNone :
      ∀ v, v <:+ u → v ≠ [] → ∀ written after,
        ¬ Rule (v ++ rest) written after)
    (hPassed : Passed Rule (u ++ rest) t) :
    ∃ left, t = u ++ left ∧ Passed Rule rest left := by
  induction u generalizing t with
  | nil => exact ⟨t, rfl, hPassed⟩
  | cons c u ih =>
      have hHere :=
        hNone (c :: u) List.suffix_rfl (List.cons_ne_nil c u)
      have hLater := fun v (hEnds : v <:+ u) =>
        hNone v (hEnds.trans (List.suffix_cons c u))
      rw [List.cons_append] at hPassed hHere
      generalize hText : c :: (u ++ rest) = given at hPassed hHere
      cases hPassed with
      | nil => cases hText
      | keep _ hRest =>
          obtain ⟨rfl, rfl⟩ := List.cons.inj hText
          rcases ih hLater hRest with ⟨left, rfl, hBehind⟩
          exact ⟨left, rfl, hBehind⟩
      | apply hRule _ => exact absurd hRule (hHere _ _)

/- A part without marks at the start of a text is copied. -/
theorem append_left
    (hMarked : IsMarked Rule mark)
    (hAvoids : Text.Avoids mark u)
    (hPassed : Passed Rule (u ++ rest) t) :
    ∃ left, t = u ++ left ∧ Passed Rule rest left := by
  refine hPassed.append_of_none fun v hEnds hSome _ _ hRule => ?_
  exact hAvoids v hEnds hSome rest (hMarked _ _ _ hRule).1

/- A part without marks at the start of what comes was there. -/
theorem append_right
    (hMarked : IsMarked Rule mark)
    (hAvoids : Text.Avoids mark u)
    (hPassed : Passed Rule s (u ++ left)) :
    ∃ rest, s = u ++ rest ∧ Passed Rule rest left := by
  induction u generalizing s with
  | nil => exact ⟨s, rfl, hPassed⟩
  | cons c u ih =>
      rw [List.cons_append] at hPassed
      generalize hText : c :: (u ++ left) = given at hPassed
      cases hPassed with
      | nil => cases hText
      | keep hNone hRest =>
          obtain ⟨rfl, rfl⟩ := List.cons.inj hText
          rcases ih hAvoids.tail hRest with ⟨rest, rfl, hLater⟩
          exact ⟨rest, rfl, hLater⟩
      | @apply _ written _ later hRule hRest =>
          have hStarts : mark <+: written ++ later :=
            (hMarked _ _ _ hRule).2.trans
              (List.prefix_append written later)
          rw [← hText] at hStarts
          exact absurd hStarts (hAvoids.not_prefix left)

theorem prefix_iff
    (hMarked : IsMarked Rule mark)
    (hAvoids : Text.Avoids mark u)
    (hPassed : Passed Rule s t) :
    u <+: t ↔ u <+: s := by
  constructor
  · rintro ⟨left, rfl⟩
    rcases hPassed.append_right hMarked hAvoids with
      ⟨rest, rfl, _⟩
    exact List.prefix_append u rest
  · rintro ⟨rest, rfl⟩
    rcases hPassed.append_left hMarked hAvoids with
      ⟨left, rfl, _⟩
    exact List.prefix_append u left

/-
  A part without marks stands in what comes where it stood, when
  its first character is no later one of what a rule takes or
  writes.
-/
theorem infix_iff
    {c : CodePoint}
    (hMarked : IsMarked Rule mark)
    (hAvoids : Text.Avoids mark (c :: u))
    (hFirst :
      ∀ s written rest, Rule s written rest →
        ∃ d taken e given, s = d :: (taken ++ rest) ∧ c ∉ taken ∧
          written = e :: given ∧ c ∉ given)
    (hPassed : Passed Rule s t) :
    c :: u <:+: t ↔ c :: u <:+: s := by
  induction hPassed with
  | nil => rfl
  | @keep d cs left hNone hRest ih =>
      have hWhole : Passed Rule (d :: cs) (d :: left) :=
        .keep hNone hRest
      rw [List.infix_cons_iff, List.infix_cons_iff, ih,
        hWhole.prefix_iff hMarked hAvoids]
  | @apply s written rest left hRule hRest ih =>
      rcases hMarked s written rest hRule with
        ⟨hTaken, hWritten⟩
      have hNotTaken : ¬ c :: u <+: s := by
        rintro ⟨after, rfl⟩
        exact hAvoids.not_prefix after hTaken
      have hNotWritten : ¬ c :: u <+: written ++ left := by
        rintro ⟨after, hAfter⟩
        refine hAvoids.not_prefix after ?_
        rw [← List.cons_append, hAfter]
        exact hWritten.trans (List.prefix_append written left)
      rcases hFirst s written rest hRule with
        ⟨d, taken, e, given, rfl, hNoneTaken, rfl, hNoneGiven⟩
      rw [List.cons_append] at hNotWritten ⊢
      rw [List.infix_cons_iff, List.infix_cons_iff,
        or_iff_right hNotTaken, or_iff_right hNotWritten,
        Text.infix_append_iff hNoneTaken,
        Text.infix_append_iff hNoneGiven, ih]

/- Where no rule applies, a text comes out as it is. -/
theorem eq_self
    (hNone :
      ∀ s', s' <:+ s → ∀ written rest, ¬ Rule s' written rest)
    (hPassed : Passed Rule s t) :
    t = s := by
  induction hPassed with
  | nil => rfl
  | @keep c cs left _ hRest ih =>
      rw [ih fun s' hEnds =>
        hNone s' (hEnds.trans (List.suffix_cons c cs))]
  | @apply s written rest left hRule hRest ih =>
      exact absurd hRule (hNone s List.suffix_rfl written rest)

section Shorter

variable
  (hShorter :
    ∀ s written rest, Rule s written rest →
      (written ++ rest).length < s.length)

include hShorter

theorem length_le
    (hPassed : Passed Rule s t) :
    t.length ≤ s.length := by
  induction hPassed with
  | nil => exact Nat.le_refl 0
  | keep hNone hRest ih =>
      simpa only [List.length_cons, Nat.add_le_add_iff_right]
        using ih
  | @apply s written rest left hRule hRest ih =>
      have hHere := hShorter s written rest hRule
      rw [List.length_append] at hHere ⊢
      omega

/- Where a rule applies somewhere, a text comes out shorter. -/
theorem length_lt
    {written : Text}
    (hEnds : u <:+ s)
    (hFound : Rule u written rest)
    (hPassed : Passed Rule s t) :
    t.length < s.length := by
  induction hPassed with
  | nil =>
      obtain rfl := List.suffix_nil.mp hEnds
      exact absurd (hShorter [] written rest hFound)
        (Nat.not_lt_zero _)
  | @keep c cs left hNone hRest ih =>
      rcases List.suffix_cons_iff.mp hEnds with rfl | hLater
      · exact absurd hFound (hNone written rest)
      · simpa only [List.length_cons, Nat.add_lt_add_iff_right]
          using ih hLater
  | @apply s written rest left hRule hRest _ =>
      have hHere := hShorter s written rest hRule
      have hBehind := length_le hShorter hRest
      rw [List.length_append] at hHere ⊢
      omega

end Shorter

end Passed

end LabelPress

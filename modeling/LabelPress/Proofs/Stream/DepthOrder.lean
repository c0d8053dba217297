import LabelPress.Printer.Stream
import LabelPress.Proofs.Double.Order
import Mathlib.Data.List.Forall2
import Mathlib.Data.List.Sort

/-
  The order of keyed things by depth.

  Things with defined depths are put into ascending order, and
  those of one depth keep the order that they came in.  There is
  one such order, so it commutes with leaving things out and
  with putting rows of greater depth behind.

  Main declarations:
    * `NotDeeper`, `HaveDepths`
    * `orderedByDepth_eq_insertionSort`
    * `forall₂_orderedByDepth`
    * `eq_of_filter_eq`
    * `orderedByDepth_filter`, `orderedByDepth_append`
-/

namespace LabelPress

variable {α β : Type}

------------------------------------------------------------
-- Insertion
------------------------------------------------------------

/- Whether the second of two keyed things may come later. -/
def NotDeeper
    (p q : Double × α) :
    Prop :=
  p.1.steps ≤ q.1.steps

instance
    (p q : Double × α) :
    Decidable (NotDeeper p q) :=
  inferInstanceAs (Decidable (p.1.steps ≤ q.1.steps))

instance :
    Std.Total (@NotDeeper α) :=
  ⟨fun p q => le_total p.1.steps q.1.steps⟩

instance :
    IsTrans (Double × α) NotDeeper :=
  ⟨fun _ _ _ hFirst hSecond => le_trans hFirst hSecond⟩

/- All the depths of a row are defined. -/
def HaveDepths
    (keyed : List (Double × α)) :
    Prop :=
  ∀ p ∈ keyed, p.1.isNaN = false

theorem insertByDepth_eq_orderedInsert
    {p : Double × α}
    {keyed : List (Double × α)}
    (hFirst : p.1.isNaN = false)
    (hDepths : HaveDepths keyed) :
    insertByDepth p keyed =
      keyed.orderedInsert NotDeeper p := by
  induction keyed with
  | nil => rfl
  | cons q rest ih =>
      have hSecond : q.1.isNaN = false :=
        hDepths q List.mem_cons_self
      have hRest : HaveDepths rest := fun r hMember =>
        hDepths r (List.mem_cons_of_mem q hMember)
      rw [insertByDepth, List.orderedInsert_cons, ih hRest]
      have hOrder :
          Double.lt q.1 p.1 = true ↔ ¬ NotDeeper p q := by
        rw [Double.lt_iff_steps hSecond hFirst, NotDeeper,
          not_le]
      by_cases hLater : NotDeeper p q
      · rw [if_neg (mt hOrder.mp (not_not.mpr hLater)),
          if_pos hLater]
      · rw [if_pos (hOrder.mpr hLater), if_neg hLater]

theorem orderedByDepth_eq_insertionSort
    {keyed : List (Double × α)}
    (hDepths : HaveDepths keyed) :
    orderedByDepth keyed = keyed.insertionSort NotDeeper := by
  induction keyed with
  | nil => rfl
  | cons p rest ih =>
      have hRest : HaveDepths rest := fun r hMember =>
        hDepths r (List.mem_cons_of_mem p hMember)
      have hSorted :
          HaveDepths (rest.insertionSort NotDeeper) := by
        intro q hMember
        exact hRest q
          ((List.mem_insertionSort NotDeeper).mp hMember)
      change insertByDepth p (orderedByDepth rest) = _
      rw [ih hRest,
        insertByDepth_eq_orderedInsert
          (hDepths p List.mem_cons_self) hSorted]
      rfl

/- Insertion looks at the depths alone. -/
theorem insertByDepth_map
    (f : α → β)
    (p : Double × α)
    (keyed : List (Double × α)) :
    insertByDepth (p.1, f p.2)
        (keyed.map fun q => (q.1, f q.2)) =
      (insertByDepth p keyed).map fun q => (q.1, f q.2) := by
  induction keyed with
  | nil => rfl
  | cons q rest ih =>
      simp only [List.map_cons, insertByDepth, ih]
      split_ifs with hLess
      · rfl
      · rfl

theorem orderedByDepth_map
    (f : α → β)
    (keyed : List (Double × α)) :
    orderedByDepth (keyed.map fun p => (p.1, f p.2)) =
      (orderedByDepth keyed).map fun p => (p.1, f p.2) := by
  induction keyed with
  | nil => rfl
  | cons p rest ih =>
      change insertByDepth (p.1, f p.2) (orderedByDepth _) = _
      rw [ih, insertByDepth_map]
      rfl

/-
  Things put into two rows at once, alike in each place and under
  the same depths, come to the same places.
-/
theorem forall₂_insertByDepth
    {R : Double × α → Double × β → Prop}
    (hDepth : ∀ p q, R p q → p.1 = q.1)
    {p : Double × α}
    {q : Double × β}
    {keyed : List (Double × α)}
    {other : List (Double × β)}
    (hThings : R p q)
    (hRows : List.Forall₂ R keyed other) :
    List.Forall₂ R (insertByDepth p keyed)
      (insertByDepth q other) := by
  induction hRows with
  | nil => exact .cons hThings .nil
  | @cons first second keyed other hHere hRest ih =>
      rw [insertByDepth, insertByDepth, ← hDepth _ _ hThings,
        ← hDepth _ _ hHere]
      split_ifs with hLess
      · exact .cons hHere ih
      · exact .cons hThings (.cons hHere hRest)

theorem forall₂_orderedByDepth
    {R : Double × α → Double × β → Prop}
    (hDepth : ∀ p q, R p q → p.1 = q.1)
    {keyed : List (Double × α)}
    {other : List (Double × β)}
    (hRows : List.Forall₂ R keyed other) :
    List.Forall₂ R (orderedByDepth keyed)
      (orderedByDepth other) := by
  induction hRows with
  | nil => exact .nil
  | cons hThings _ ih =>
      exact forall₂_insertByDepth hDepth hThings ih

------------------------------------------------------------
-- Order and Ties
------------------------------------------------------------

theorem perm_orderedByDepth
    {keyed : List (Double × α)}
    (hDepths : HaveDepths keyed) :
    (orderedByDepth keyed).Perm keyed := by
  rw [orderedByDepth_eq_insertionSort hDepths]
  exact List.perm_insertionSort NotDeeper keyed

theorem pairwise_orderedByDepth
    {keyed : List (Double × α)}
    (hDepths : HaveDepths keyed) :
    (orderedByDepth keyed).Pairwise NotDeeper := by
  rw [orderedByDepth_eq_insertionSort hDepths]
  exact List.pairwise_insertionSort NotDeeper keyed

/- Whether a keyed thing is at a depth. -/
def atSteps
    (n : Int)
    (p : Double × α) :
    Bool :=
  decide (p.1.steps = n)

/- Things of one depth keep their order. -/
theorem filter_orderedByDepth
    {keyed : List (Double × α)}
    (hDepths : HaveDepths keyed)
    (n : Int) :
    (orderedByDepth keyed).filter (atSteps n) =
      keyed.filter (atSteps n) := by
  have hTied :
      (keyed.filter (atSteps n)).Pairwise NotDeeper := by
    apply List.pairwise_of_forall_mem_list
    intro p hp q hq
    have hFirst : p.1.steps = n := by
      simpa [atSteps] using (List.mem_filter.mp hp).2
    have hSecond : q.1.steps = n := by
      simpa [atSteps] using (List.mem_filter.mp hq).2
    rw [NotDeeper, hFirst, hSecond]
  have hSublist :
      (keyed.filter (atSteps n)).Sublist
        ((orderedByDepth keyed).filter (atSteps n)) := by
    rw [orderedByDepth_eq_insertionSort hDepths]
    have hKept :=
      (List.sublist_insertionSort hTied
        List.filter_sublist).filter (atSteps n)
    simpa [List.filter_filter] using hKept
  have hLength :=
    ((perm_orderedByDepth hDepths).filter
      (atSteps n)).length_eq
  exact (hSublist.eq_of_length hLength.symm).symm

/-
  A row in order is known from what it holds at each depth, in
  order.
-/
theorem eq_of_filter_eq
    {row other : List (Double × α)}
    (hRow : row.Pairwise NotDeeper)
    (hOther : other.Pairwise NotDeeper)
    (hTies :
      ∀ n, row.filter (atSteps n) =
        other.filter (atSteps n)) :
    row = other := by
  induction row generalizing other with
  | nil =>
      cases other with
      | nil => rfl
      | cons q rest =>
          have hNone := hTies q.1.steps
          simp [atSteps] at hNone
  | cons p rest ih =>
      cases other with
      | nil =>
          have hNone := hTies p.1.steps
          simp [atSteps] at hNone
      | cons q later =>
          have hUp : q.1.steps ≤ p.1.steps := by
            have hMember : p ∈ q :: later := by
              have hKept :
                  p ∈ (q :: later).filter
                    (atSteps p.1.steps) := by
                rw [← hTies]
                simp [atSteps]
              exact (List.mem_filter.mp hKept).1
            rcases List.mem_cons.mp hMember with rfl | hLater
            · exact le_rfl
            · exact List.rel_of_pairwise_cons hOther hLater
          have hDown : p.1.steps ≤ q.1.steps := by
            have hMember : q ∈ p :: rest := by
              have hKept :
                  q ∈ (p :: rest).filter
                    (atSteps q.1.steps) := by
                rw [hTies]
                simp [atSteps]
              exact (List.mem_filter.mp hKept).1
            rcases List.mem_cons.mp hMember with rfl | hLater
            · exact le_rfl
            · exact List.rel_of_pairwise_cons hRow hLater
          have hSame : p.1.steps = q.1.steps :=
            le_antisymm hDown hUp
          have hHeads := hTies p.1.steps
          rw [List.filter_cons_of_pos (by simp [atSteps]),
            List.filter_cons_of_pos (by simp [atSteps, hSame])]
            at hHeads
          obtain rfl : p = q := (List.cons.inj hHeads).1
          congr 1
          apply ih hRow.of_cons hOther.of_cons
          intro n
          have hBoth := hTies n
          rw [List.filter_cons, List.filter_cons] at hBoth
          split_ifs at hBoth with hHere
          · exact (List.cons.inj hBoth).2
          · exact hBoth

------------------------------------------------------------
-- Parts of Rows
------------------------------------------------------------

/- What is left out before is left out after. -/
theorem orderedByDepth_filter
    {keyed : List (Double × α)}
    (hDepths : HaveDepths keyed)
    (keep : Double × α → Bool) :
    orderedByDepth (keyed.filter keep) =
      (orderedByDepth keyed).filter keep := by
  have hKept : HaveDepths (keyed.filter keep) :=
    fun p hMember => hDepths p (List.mem_filter.mp hMember).1
  apply eq_of_filter_eq (pairwise_orderedByDepth hKept)
  · exact (pairwise_orderedByDepth hDepths).filter keep
  · intro n
    rw [filter_orderedByDepth hKept, List.filter_comm,
      List.filter_comm (atSteps n) keep,
      filter_orderedByDepth hDepths]

/- Rows with the same things at each depth have one order. -/
theorem orderedByDepth_eq_of_filter_eq
    {keyed other : List (Double × α)}
    (hDepths : HaveDepths keyed)
    (hOther : HaveDepths other)
    (hTies :
      ∀ n, keyed.filter (atSteps n) =
        other.filter (atSteps n)) :
    orderedByDepth keyed = orderedByDepth other := by
  apply eq_of_filter_eq (pairwise_orderedByDepth hDepths)
    (pairwise_orderedByDepth hOther)
  intro n
  rw [filter_orderedByDepth hDepths,
    filter_orderedByDepth hOther, hTies]

/- A row that is nowhere less deep stays behind another. -/
theorem orderedByDepth_append
    {upper lower : List (Double × α)}
    (hUpper : HaveDepths upper)
    (hLower : HaveDepths lower)
    (hBelow : ∀ p ∈ upper, ∀ q ∈ lower, NotDeeper p q) :
    orderedByDepth (upper ++ lower) =
      orderedByDepth upper ++ orderedByDepth lower := by
  have hBoth : HaveDepths (upper ++ lower) := by
    intro p hMember
    rcases List.mem_append.mp hMember with hIn | hIn
    · exact hUpper p hIn
    · exact hLower p hIn
  apply eq_of_filter_eq (pairwise_orderedByDepth hBoth)
  · rw [List.pairwise_append]
    refine ⟨pairwise_orderedByDepth hUpper,
      pairwise_orderedByDepth hLower, ?_⟩
    intro p hp q hq
    exact hBelow p ((perm_orderedByDepth hUpper).mem_iff.mp hp)
      q ((perm_orderedByDepth hLower).mem_iff.mp hq)
  · intro n
    rw [filter_orderedByDepth hBoth, List.filter_append,
      List.filter_append, filter_orderedByDepth hUpper,
      filter_orderedByDepth hLower]

end LabelPress

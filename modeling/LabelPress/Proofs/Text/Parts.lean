import LabelPress.Proofs.Text.Lines

/-
  The parts of a text between newlines, and places in lines.

  A text of lines falls apart at its newlines into the parts of
  its lines and a last empty part.  What has no newline in it
  stands within one of the lines, if it stands in the text.

  Main declarations:
    * `Text.partsBetween_eq_splitOn`
    * `Text.partsBetween_ended_eq_iff`
    * `Text.upTo_append_cons`, `Text.onFrom_append_cons`
    * `Text.mem_partsBetween_append`
    * `Text.mem_tail_partsBetween_append`
    * `Text.infix_append_cons_iff`
    * `Text.exists_place_of_ended`
    * `Text.only_at_end_iff`, `Text.only_part_at_end_iff`
-/

namespace LabelPress

namespace Text

------------------------------------------------------------
-- Parts
------------------------------------------------------------

section Parts

variable {mark : CodePoint}

theorem partsBetween_eq_splitOn
    (mark : CodePoint)
    (t : Text) :
    partsBetween mark t = List.splitOn mark t := by
  induction t with
  | nil => rfl
  | cons c t ih =>
      rw [partsBetween, List.splitOn_cons_eq_if_modifyHead, ih]
      simp only [beq_iff_eq]
      split_ifs with hMark
      · rfl
      · split
        · rename_i hNone
          exact absurd hNone (List.splitOn_ne_nil mark t)
        · rename_i part parts hParts
          rw [hParts]
          rfl

theorem partsBetween_ne_nil
    (t : Text) :
    partsBetween mark t ≠ [] := by
  rw [partsBetween_eq_splitOn]
  exact List.splitOn_ne_nil mark t

theorem partsBetween_append_cons
    (s t : Text) :
    partsBetween mark (s ++ mark :: t) =
      partsBetween mark s ++ partsBetween mark t := by
  simp only [partsBetween_eq_splitOn,
    List.splitOn_append_cons_self]

theorem partsBetween_of_notMem
    {t : Text}
    (hNone : mark ∉ t) :
    partsBetween mark t = [t] := by
  rw [partsBetween_eq_splitOn, List.splitOn_eq_singleton hNone]

theorem notMem_of_mem_partsBetween
    {t part : Text}
    (hPart : part ∈ partsBetween mark t) :
    mark ∉ part := by
  induction t generalizing part with
  | nil =>
      obtain rfl := List.mem_singleton.mp hPart
      exact List.not_mem_nil
  | cons c t ih =>
      rw [partsBetween] at hPart
      split_ifs at hPart with hMark
      · rcases List.mem_cons.mp hPart with rfl | hLater
        · exact List.not_mem_nil
        · exact ih hLater
      · cases hParts : partsBetween mark t with
        | nil => exact absurd hParts (partsBetween_ne_nil t)
        | cons first rest =>
            rw [hParts] at hPart ih
            rcases List.mem_cons.mp hPart with rfl | hLater
            · rw [List.mem_cons, not_or]
              exact ⟨Ne.symm hMark, ih List.mem_cons_self⟩
            · exact ih (List.mem_cons_of_mem first hLater)

/- A text without the mark in front lengthens the first part. -/
theorem partsBetween_append_left
    {lead t first : Text}
    {rest : List Text}
    (hLead : mark ∉ lead)
    (hParts : partsBetween mark t = first :: rest) :
    partsBetween mark (lead ++ t) = (lead ++ first) :: rest := by
  induction lead with
  | nil => exact hParts
  | cons c lead ih =>
      rw [List.mem_cons, not_or] at hLead
      rw [List.cons_append, partsBetween,
        if_neg (Ne.symm hLead.1), ih hLead.2]
      rfl

/- A text without the mark at the end lengthens the last part. -/
theorem partsBetween_append_right
    {t tail last : Text}
    {front : List Text}
    (hTail : mark ∉ tail)
    (hParts : partsBetween mark t = front ++ [last]) :
    partsBetween mark (t ++ tail) = front ++ [last ++ tail] := by
  induction t generalizing front last with
  | nil =>
      rw [List.nil_append, partsBetween_of_notMem hTail]
      rcases List.append_eq_singleton_iff.mp hParts.symm with
        ⟨rfl, hLast⟩ | ⟨_, hNone⟩
      · obtain rfl : last = [] := List.singleton_inj.mp hLast
        rfl
      · cases hNone
  | cons c t ih =>
      rw [List.cons_append, partsBetween]
      rw [partsBetween] at hParts
      split_ifs at hParts ⊢ with hMark
      · cases front with
        | nil =>
            exact absurd (List.tail_eq_of_cons_eq hParts)
              (partsBetween_ne_nil t)
        | cons first front =>
            obtain rfl := List.head_eq_of_cons_eq hParts
            rw [ih (List.tail_eq_of_cons_eq hParts)]
            rfl
      · cases hSplit : partsBetween mark t with
        | nil => exact absurd hSplit (partsBetween_ne_nil t)
        | cons part parts =>
            rw [hSplit] at hParts ih
            cases front with
            | nil =>
                obtain rfl : c :: part = last :=
                  List.head_eq_of_cons_eq hParts
                obtain rfl : parts = [] :=
                  List.tail_eq_of_cons_eq hParts
                have hOne : [part] = [] ++ [part] := rfl
                rw [ih hOne]
                rfl
            | cons first front =>
                obtain rfl : c :: part = first :=
                  List.head_eq_of_cons_eq hParts
                obtain rfl : parts = front ++ [last] :=
                  List.tail_eq_of_cons_eq hParts
                have hMany :
                    part :: (front ++ [last]) =
                      (part :: front) ++ [last] := rfl
                rw [ih hMany]
                rfl

/- The first place of a mark is behind what it is not in. -/
theorem upTo_append_cons
    {s : Text}
    (hNone : mark ∉ s)
    (t : Text) :
    upTo mark (s ++ mark :: t) = s := by
  have hApart : ∀ c ∈ s, decide (c ≠ mark) = true := by
    intro c hMember
    exact decide_eq_true (ne_of_mem_of_not_mem hMember hNone)
  rw [upTo, List.takeWhile_append_of_pos hApart]
  simp

theorem onFrom_append_cons
    {s : Text}
    (hNone : mark ∉ s)
    (t : Text) :
    onFrom mark (s ++ mark :: t) = mark :: t := by
  have hApart : ∀ c ∈ s, decide (c ≠ mark) = true := by
    intro c hMember
    exact decide_eq_true (ne_of_mem_of_not_mem hMember hNone)
  rw [onFrom, List.dropWhile_append_of_pos hApart]
  simp

theorem not_prefix_of_head?
    {lead t : Text}
    {c : CodePoint}
    (hHead : lead.head? = some c)
    (hOther : t.head? ≠ some c) :
    ¬ lead <+: t := by
  rintro ⟨rest, rfl⟩
  rw [List.head?_append, hHead] at hOther
  exact hOther rfl

/- What does not start as the text in front is a later part. -/
theorem mem_partsBetween_append
    {lead s t : Text}
    (hLead : mark ∉ lead)
    (hOther : ¬ lead <+: t) :
    t ∈ partsBetween mark (lead ++ s) ↔
      t ∈ (partsBetween mark s).tail := by
  cases hParts : partsBetween mark s with
  | nil => exact absurd hParts (partsBetween_ne_nil s)
  | cons first rest =>
      rw [partsBetween_append_left hLead hParts, List.mem_cons,
        List.tail_cons]
      constructor
      · rintro (rfl | hLater)
        · exact absurd (List.prefix_append lead first) hOther
        · exact hLater
      · exact .inr

/- What does not end as the text behind is no last part. -/
theorem mem_tail_partsBetween_append
    {s tail t : Text}
    (hTail : mark ∉ tail)
    (hOther : ¬ tail <:+ t) :
    t ∈ (partsBetween mark (s ++ tail)).tail ↔
      t ∈ (partsBetween mark s).tail.dropLast := by
  rcases List.eq_nil_or_concat (partsBetween mark s) with
    hNone | ⟨front, last, hParts⟩
  · exact absurd hNone (partsBetween_ne_nil s)
  · rw [List.concat_eq_append] at hParts
    rw [partsBetween_append_right hTail hParts, hParts]
    cases front with
    | nil => exact Iff.rfl
    | cons first front =>
        rw [List.cons_append, List.cons_append, List.tail_cons,
          List.tail_cons, List.dropLast_concat,
          List.mem_append, List.mem_singleton]
        constructor
        · rintro (hMiddle | rfl)
          · exact hMiddle
          · exact absurd (List.suffix_append last tail) hOther
        · exact .inl

end Parts

------------------------------------------------------------
-- Parts of Lines
------------------------------------------------------------

theorem partsBetween_ended
    (lines : List Text) :
    partsBetween '\n' (ended lines) =
      lines.flatMap (partsBetween '\n') ++ [[]] := by
  induction lines with
  | nil => rfl
  | cons line lines ih =>
      rw [ended_cons, partsBetween_append_cons, ih,
        List.flatMap_cons, List.append_assoc]

/- Lines are the parts of their text if they have no newlines. -/
theorem partsBetween_ended_eq_iff
    {lines : List Text} :
    partsBetween '\n' (ended lines) = lines ++ [[]] ↔
      ∀ line ∈ lines, line.IsLine := by
  constructor
  · intro hParts line hMember
    apply notMem_of_mem_partsBetween (t := ended lines)
    rw [hParts]
    exact List.mem_append_left _ hMember
  · intro hLines
    rw [partsBetween_ended]
    congr 1
    calc
      lines.flatMap (partsBetween '\n') =
          lines.flatMap fun line => [line] :=
        List.flatMap_congr fun line hMember =>
          partsBetween_of_notMem (hLines line hMember)
      _ = lines := List.flatMap_singleton' lines

------------------------------------------------------------
-- Places
------------------------------------------------------------

section Places

variable {c : CodePoint}
variable {before t after u v : Text}

/- What a character is not in stands on one side of it. -/
theorem split_around
    (ht : c ∉ t)
    (hText : before ++ t ++ after = u ++ c :: v) :
    (∃ w, u = before ++ t ++ w ∧ after = w ++ c :: v) ∨
      ∃ w, before = u ++ c :: w ∧ v = w ++ t ++ after := by
  rcases List.append_eq_append_iff.mp hText with
    ⟨w, hLeft, hRight⟩ | ⟨w, hLeft, hRight⟩
  · exact .inl ⟨w, hLeft, hRight⟩
  · cases w with
    | nil =>
        rw [List.append_nil] at hLeft
        exact .inl ⟨[], by rw [hLeft, List.append_nil],
          hRight.symm⟩
    | cons d w =>
        obtain rfl : c = d := List.head_eq_of_cons_eq hRight
        obtain rfl : v = w ++ after :=
          List.tail_eq_of_cons_eq hRight
        -- the character is in what stands before
        rcases List.append_eq_append_iff.mp hLeft with
          ⟨middle, hu, htail⟩ | ⟨middle, hb, hw⟩
        · rw [htail] at ht
          exact absurd
            (List.mem_append_right middle List.mem_cons_self) ht
        · cases middle with
          | nil =>
              obtain rfl : c :: w = t := hw
              exact absurd List.mem_cons_self ht
          | cons d middle =>
              obtain rfl : c = d := List.head_eq_of_cons_eq hw
              obtain rfl : w = middle ++ t :=
                List.tail_eq_of_cons_eq hw
              exact .inr ⟨middle, hb, rfl⟩

theorem infix_append_cons_iff
    (ht : c ∉ t) :
    t <:+: u ++ c :: v ↔ t <:+: u ∨ t <:+: v := by
  constructor
  · rintro ⟨before, after, hText⟩
    rcases split_around ht hText with
      ⟨w, hLeft, _⟩ | ⟨w, _, hRight⟩
    · exact .inl ⟨before, w, hLeft.symm⟩
    · exact .inr ⟨w, after, hRight.symm⟩
  · rintro (hLeft | hRight)
    · exact hLeft.trans (List.prefix_append u _).isInfix
    · exact hRight.trans
        ((List.suffix_cons c v).trans
          (List.suffix_append u _)).isInfix

/- Where a line stands in a text of lines. -/
theorem exists_place_of_ended
    {lines : List Text}
    (hSome : t ≠ [])
    (ht : t.IsLine)
    (hText : before ++ t ++ after = ended lines) :
    ∃ earlier line later u v,
      lines = earlier ++ line :: later ∧
        line = u ++ t ++ v ∧
        after = v ++ .char '\n' :: ended later := by
  induction lines generalizing before with
  | nil =>
      have hNone := List.append_eq_nil_iff.mp hText
      exact absurd (List.append_eq_nil_iff.mp hNone.1).2 hSome
  | cons first lines ih =>
      rw [ended_cons] at hText
      rcases split_around ht hText with
        ⟨w, hFirst, hAfter⟩ | ⟨w, _, hRest⟩
      · exact ⟨[], first, lines, before, w, rfl, hFirst, hAfter⟩
      · rcases ih hRest.symm with
          ⟨earlier, line, later, u, v, rfl, hLine, hAfter⟩
        exact ⟨first :: earlier, line, later, u, v, rfl, hLine,
          hAfter⟩

/-
  The last of some lines stands nowhere else exactly when it is
  in none of the lines before it.
-/
theorem only_at_end_iff
    {front : List Text}
    (hSome : t ≠ [])
    (ht : t.IsLine) :
    (∀ before after : Text,
        ended (front ++ [t]) = before ++ t ++ after →
          after = [.char '\n']) ↔
      ∀ line ∈ front, ¬ t <:+: line := by
  constructor
  · rintro hOnly line hMember ⟨u, v, hLine⟩
    rcases List.append_of_mem hMember with
      ⟨earlier, later, rfl⟩
    have hText :
        ended (earlier ++ line :: later ++ [t]) =
          ended earlier ++ u ++ t ++
            (v ++ .char '\n' :: ended (later ++ [t])) := by
      simp only [ended, List.flatMap_append, List.flatMap_cons,
        List.append_assoc, ← hLine]
      rfl
    have hAfter := hOnly _ _ hText
    rcases List.append_eq_singleton_iff.mp hAfter with
      ⟨_, hBehind⟩ | ⟨_, hNone⟩
    · have hNone := List.tail_eq_of_cons_eq hBehind
      simp [ended] at hNone
    · cases hNone
  · intro hApart before after hText
    rcases exists_place_of_ended hSome ht hText.symm with
      ⟨earlier, line, later, u, v, hLines, hLine, hAfter⟩
    rcases List.eq_nil_or_concat later with
      rfl | ⟨between, last, rfl⟩
    · -- the place is in the last line, which is the text itself
      obtain rfl : t = line :=
        List.singleton_inj.mp (List.append_inj' hLines rfl).2
      have hLength := congrArg List.length hLine
      simp only [List.length_append] at hLength
      obtain rfl : v = [] :=
        List.eq_nil_of_length_eq_zero (by omega)
      exact hAfter
    · rw [List.concat_eq_append, ← List.cons_append,
        ← List.append_assoc] at hLines
      have hFront := (List.append_inj' hLines rfl).1
      have hMember : line ∈ front := by
        rw [hFront]
        exact List.mem_append_right _ List.mem_cons_self
      exact absurd ⟨u, v, hLine.symm⟩ (hApart line hMember)

/- The same for the last of some lines as a part of its own. -/
theorem only_part_at_end_iff
    {front : List Text}
    (hSome : t ≠ [])
    (ht : t.IsLine) :
    (∀ before after : List Text,
        partsBetween '\n' (ended (front ++ [t])) =
            before ++ t :: after →
          after = [[]]) ↔
      ∀ line ∈ front, t ∉ partsBetween '\n' line := by
  have hParts :
      partsBetween '\n' (ended (front ++ [t])) =
        front.flatMap (partsBetween '\n') ++ [t, []] := by
    rw [partsBetween_ended, List.flatMap_append,
      List.flatMap_singleton, partsBetween_of_notMem ht,
      List.append_assoc]
    rfl
  rw [hParts]
  constructor
  · intro hOnly line hMember hPart
    have hIn :
        t ∈ front.flatMap (partsBetween '\n') :=
      List.mem_flatMap.mpr ⟨line, hMember, hPart⟩
    rcases List.append_of_mem hIn with ⟨before, after, hSplit⟩
    have hAfter := hOnly before (after ++ [t, []]) (by
      rw [hSplit, List.append_assoc]
      rfl)
    simpa using congrArg List.length hAfter
  · intro hApart before after hSplit
    have hNone : t ∉ front.flatMap (partsBetween '\n') := by
      intro hIn
      rcases List.mem_flatMap.mp hIn with
        ⟨line, hMember, hPart⟩
      exact hApart line hMember hPart
    rcases List.append_eq_append_iff.mp hSplit with
      ⟨w, _, hEnd⟩ | ⟨w, hFront, hEnd⟩
    · cases w with
      | nil => exact (List.tail_eq_of_cons_eq hEnd).symm
      | cons part w =>
          have hLast := List.tail_eq_of_cons_eq hEnd
          rcases List.append_eq_singleton_iff.mp hLast.symm with
            ⟨_, hBehind⟩ | ⟨_, hNone⟩
          · exact absurd (List.head_eq_of_cons_eq hBehind) hSome
          · cases hNone
    · cases w with
      | nil => exact List.tail_eq_of_cons_eq hEnd
      | cons part w =>
          obtain rfl : t = part := List.head_eq_of_cons_eq hEnd
          rw [hFront] at hNone
          exact absurd
            (List.mem_append_right before List.mem_cons_self)
            hNone

end Places

end Text

end LabelPress

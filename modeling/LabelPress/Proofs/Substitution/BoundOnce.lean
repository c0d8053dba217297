import LabelPress.Machine.Usual
import LabelPress.Proofs.Substitution.UsedNames

/-
  Values that are bound once.

  Binding a table tags its values ahead of time, and a placeholder
  tags the value that it finds.  The two come to the same: under
  every name there is one value or none before and after, nulls
  being none in either case.  What is bound already stays when it
  is bound again.

  Main declarations:
    * `Bindings.boundRow?`, `Bindings.result_bind_table`
    * `Bindings.bind_of_isBoundRow`
    * `Bindings.bound?_boundRows`
    * `substitute_of_bound?`
    * `substitute_bound_once`
-/

namespace LabelPress

namespace Bindings

------------------------------------------------------------
-- Rows
------------------------------------------------------------

/- The row that binding leaves of a row, if any. -/
def boundRow?
    (row : Text × Binding) :
    Option (Text × Binding) :=
  if isVariableName row.1 && !row.2.isNull then
    some (row.1, .bound row.2.classify)
  else none

theorem result_bindEntry
    (name : Text)
    (b : Binding) :
    (bindEntry name b).result =
      .ok (boundRow? (name, b)).toList := by
  unfold bindEntry boundRow?
  cases hName : isVariableName name with
  | false => rfl
  | true =>
      cases hNull : b.isNull with
      | _ => rfl

/- Binding a table answers, with a row for each row or none. -/
theorem result_bind_table
    (rows : List (Text × Binding)) :
    (table rows).bind.result =
      .ok (table (rows.filterMap boundRow?)) := by
  have hEntries :
      (fun row : Text × Binding =>
          (bindEntry row.1 row.2).result) =
        fun row => pure (boundRow? row).toList :=
    funext fun row => result_bindEntry row.1 row.2
  rw [bind, Outcome.result_bind, Outcome.result_each]
  change ((rows.mapM fun row => (bindEntry row.1 row.2).result) >>=
    _) = _
  rw [hEntries, List.mapM_pure, List.filterMap_eq_flatMap_toList]
  rfl

/- A row with the name of a variable and a tagged value. -/
def IsBoundRow
    (row : Text × Binding) :
    Prop :=
  isVariableName row.1 = true ∧ ∃ v, row.2 = .bound v

theorem isBoundRow_of_boundRow?
    {row bound : Text × Binding}
    (hRow : boundRow? row = some bound) :
    IsBoundRow bound := by
  unfold boundRow? at hRow
  split_ifs at hRow with hKept
  obtain rfl := Option.some.inj hRow
  rw [Bool.and_eq_true] at hKept
  exact ⟨hKept.1, _, rfl⟩

/- Where all names are names of variables, nothing is noticed. -/
theorem bind_of_isVariableName
    {rows : List (Text × Binding)}
    (hNames : ∀ row ∈ rows, isVariableName row.1 = true) :
    (table rows).bind = .ok (table (rows.filterMap boundRow?)) := by
  have hEntry :
      ∀ row ∈ rows,
        bindEntry row.1 row.2 = .ok (boundRow? row).toList := by
    intro row hMember
    unfold bindEntry boundRow?
    rw [hNames row hMember]
    cases row.2.isNull with
    | _ => rfl
  rw [bind, Outcome.each_congr hEntry, Outcome.each_ok,
    List.filterMap_eq_flatMap_toList, List.flatMap_def]
  rfl

/- Rows that are bound are left by binding, without notice. -/
theorem bind_of_isBoundRow
    {rows : List (Text × Binding)}
    (hBound : ∀ row ∈ rows, IsBoundRow row) :
    (table rows).bind = .ok (table rows) := by
  have hRow :
      ∀ row ∈ rows, boundRow? row = some row := by
    rintro ⟨name, b⟩ hMember
    rcases hBound _ hMember with ⟨hName, v, rfl⟩
    exact if_pos ((Bool.and_true _).trans hName)
  rw [bind_of_isVariableName fun row hMember =>
      (hBound row hMember).1,
    List.filterMap_congr hRow, List.filterMap_some]

/- Under each name a bound table has the value of the table. -/
theorem lookup_boundRows
    {rows : List (Text × Binding)}
    (hKeys : (rows.map Prod.fst).Nodup)
    (hNames : ∀ row ∈ rows, isVariableName row.1 = true)
    (name : Text) :
    (rows.filterMap boundRow?).lookup name =
      ((rows.lookup name).filter fun b => !b.isNull).map
        fun b => .bound b.classify := by
  induction rows with
  | nil => rfl
  | cons row rows ih =>
      rcases row with ⟨key, b⟩
      rcases List.nodup_cons.mp hKeys with ⟨hFresh, hLater⟩
      rcases List.forall_mem_cons.mp hNames with
        ⟨hName, hOthers⟩
      have hRest := ih hLater hOthers
      have hKept : isVariableName key = true := hName
      cases hNull : b.isNull with
      | false =>
          have hRow :
              boundRow? (key, b) =
                some (key, .bound b.classify) := by
            rw [boundRow?, hKept, hNull]
            rfl
          rw [List.filterMap_cons_some hRow, List.lookup_cons,
            List.lookup_cons, hRest]
          cases name == key with
          | false => rfl
          | true => rw [Option.filter_some, hNull]; rfl
      | true =>
          have hRow : boundRow? (key, b) = none := by
            rw [boundRow?, hKept, hNull]
            rfl
          rw [List.filterMap_cons_none hRow, List.lookup_cons,
            hRest]
          cases hSame : name == key with
          | false => rfl
          | true =>
              -- a null is no value, and no later row has its name
              obtain rfl : name = key := beq_iff_eq.mp hSame
              have hNone : rows.lookup name = none := by
                rw [List.lookup_eq_none_iff]
                intro row hMember
                simp only [bne_iff_ne]
                rintro rfl
                exact hFresh
                  (List.mem_map.mpr ⟨row, hMember, rfl⟩)
              rw [hNone, Option.filter_some, hNull]
              rfl

/- A bound table has one value or none where the table has. -/
theorem bound?_boundRows
    {rows : List (Text × Binding)}
    (hKeys : (rows.map Prod.fst).Nodup)
    (hNames : ∀ row ∈ rows, isVariableName row.1 = true)
    (name : Text) :
    (table (rows.filterMap boundRow?)).bound? name =
      (table rows).bound? name := by
  rw [bound?, bound?, get?, get?,
    lookup_boundRows hKeys hNames name]
  cases (rows.lookup name).filter fun b => !b.isNull with
  | none => rfl
  | some b => rfl

end Bindings

------------------------------------------------------------
-- Substitution
------------------------------------------------------------

/- Tables with the same values substitute alike. -/
theorem substitute_of_bound?
    [Machine]
    {b₁ b₂ : Bindings}
    (hSame : ∀ name, b₁.bound? name = b₂.bound? name)
    (source : EntrySource) :
    substitute source b₁ = substitute source b₂ := by
  have hElement :
      ∀ e : Element, e.substitute b₁ = e.substitute b₂ := by
    intro e
    have hContent :
        e.content.substitute b₁ = e.content.substitute b₂ :=
      Content.substitute_of_agreeOn fun name _ => hSame name
    rw [Element.substitute, Element.substitute, hContent]
  rw [substitute, substitute, funext hElement]

/-
  Binding a table answers, and binding what it answers changes
  nothing.  When the names of the table are names of variables,
  the table and what it is bound to substitute alike: the same
  elements or the same fault, and the same notices.
-/
theorem substitute_bound_once
    [Machine]
    (rows : List (Text × Binding)) :
    ∃ bound,
      (Bindings.table rows).bind.result = .ok bound ∧
        bound.bind = .ok bound ∧
        ((rows.map Prod.fst).Nodup →
          (∀ row ∈ rows, isVariableName row.1 = true) →
            ∀ source,
              substitute source (.table rows) =
                substitute source bound) := by
  refine ⟨_, Bindings.result_bind_table rows, ?_, ?_⟩
  · apply Bindings.bind_of_isBoundRow
    intro row hMember
    rcases List.mem_filterMap.mp hMember with
      ⟨given, _, hRow⟩
    exact Bindings.isBoundRow_of_boundRow? hRow
  · intro hKeys hNames source
    exact substitute_of_bound?
      (fun name =>
        (Bindings.bound?_boundRows hKeys hNames name).symm)
      source

/-
  A null, a text that reads as a day, and a number that is tagged
  as one already, each with a format of its own.
-/
theorem substitute_bound_once_mixed :
    let rows : List (Text × Binding) :=
      [("a", .data .null), ("d", .data (.text "2024-01-02")),
        ("n", .bound ⟨.number, .int 2⟩)]
    let bound : Bindings :=
      .table
        [("d", .bound (BoundValue.ofValue (.text "2024-01-02"))),
          ("n", .bound ⟨.number, .int 2⟩)]
    let shown
        (t : Text) :
        Element :=
      { content := .text (.record { text := .text t }) }
    let source : EntrySource :=
      .entries
        [.element (shown
          "\x7b\x7ba\x7d\x7d \x7b\x7bd|YYYY\x7d\x7d \x7b\x7bn\x7d\x7d")]
    (Bindings.table rows).bind.result = .ok bound ∧
      bound.bind = .ok bound ∧
      (substitute source (.table rows)).result =
        .ok [shown "\x7b\x7ba\x7d\x7d 2024 2"] ∧
      substitute source (.table rows) =
        substitute source bound := by
  intro rows bound shown source
  have hBind : (Bindings.table rows).bind.result = .ok bound := by
    rfl
  have hKeys : (rows.map Prod.fst).Nodup := by
    decide
  have hNames :
      ∀ row ∈ rows, isVariableName row.1 = true := by
    intro row hMember
    simp only [rows, List.mem_cons, List.not_mem_nil, or_false]
      at hMember
    rcases hMember with rfl | rfl | rfl
    · rfl
    · rfl
    · rfl
  rcases substitute_bound_once rows with
    ⟨b, hAnswer, hAgain, hAlike⟩
  rw [hBind] at hAnswer
  obtain rfl : bound = b := Except.ok.inj hAnswer
  exact ⟨hBind, hAgain, by rfl, hAlike hKeys hNames source⟩

end LabelPress

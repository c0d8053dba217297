import LabelPress.Machine.Usual
import LabelPress.Proofs.Substitution.ShownTexts
import LabelPress.Proofs.Substitution.UsedNames

/-
  The names that are listed for entries.

  Entries that are listed together have the names of the first
  ones, and then those of the others that are not among them.  A
  name is listed once, and it is listed if it is the name of a
  placeholder in a text of an element, or is declared.

  Main declarations:
    * `Entry.Declares`, `Entry.mem_declared_iff`
    * `mem_flatMap_namesUsed_iff`
    * `usedVariableNames_append`
-/

namespace LabelPress

------------------------------------------------------------
-- One Entry
------------------------------------------------------------

namespace Entry

/- The properties of an entry, null for none. -/
def properties :
    Entry → Value
  | .element e => e.content.properties
  | .object fields => Value.fieldOf fields "properties"
  | .other _ => .null

/- Whether an entry has a name in a list of variables. -/
def Declares
    (entry : Entry)
    (name : Text) :
    Prop :=
  name ≠ "" ∧ ∃ fields items,
    entry.properties = .object fields ∧
      (Value.fieldOf fields "variables" = .list items ∨
        Value.fieldOf fields "variables" = .tuple items) ∧
      .text name ∈ items

/- The names in a list are the texts in it, but for empty ones. -/
theorem mem_declaredIn_iff
    {v : Value}
    {name : Text} :
    name ∈ declaredIn v ↔
      name ≠ "" ∧ ∃ items,
        (v = .list items ∨ v = .tuple items) ∧
          .text name ∈ items := by
  have hItems (items : List Value) :
      name ∈ items.filterMap declaredIn.name? ↔
        name ≠ "" ∧ .text name ∈ items := by
    rw [List.mem_filterMap]
    constructor
    · rintro ⟨v, hMember, hName⟩
      cases v with
      | text s =>
          rw [declaredIn.name?] at hName
          split_ifs at hName with hEmpty
          obtain rfl : s = name := Option.some.inj hName
          exact ⟨hEmpty, hMember⟩
      | _ => cases hName
    · rintro ⟨hNonempty, hMember⟩
      exact ⟨.text name, hMember, if_neg hNonempty⟩
  cases v with
  | list items =>
      simp only [declaredIn, hItems, Value.list.injEq, reduceCtorEq,
        or_false, exists_eq_left']
  | tuple items =>
      simp only [declaredIn, hItems, Value.tuple.injEq, reduceCtorEq,
        false_or, exists_eq_left']
  | _ =>
      refine iff_of_false List.not_mem_nil ?_
      rintro ⟨_, _, hNone | hNone, _⟩
      · cases hNone
      · cases hNone

theorem mem_declared_iff
    {entry : Entry}
    {name : Text} :
    name ∈ entry.declared ↔ entry.Declares name := by
  have hDeclared :
      entry.declared = declaredNames entry.properties := by
    cases entry with
    | _ => rfl
  rw [hDeclared, Declares]
  cases entry.properties with
  | object fields =>
      simp only [declaredNames, mem_declaredIn_iff,
        Value.object.injEq, exists_and_left, exists_eq_left']
  | _ =>
      refine iff_of_false List.not_mem_nil ?_
      rintro ⟨_, _, _, hNone, _⟩
      cases hNone

end Entry

------------------------------------------------------------
-- Lists of Entries
------------------------------------------------------------

/- The names of entries are those of their elements, or declared. -/
theorem mem_flatMap_namesUsed_iff
    [Machine]
    {entries : List Entry}
    {es : List Element}
    (hCoerced : (coerceEntries entries).result = .ok es)
    {name : Text} :
    name ∈ entries.flatMap Entry.namesUsed ↔
      (∃ e ∈ es, name ∈ e.content.placeholderNames) ∨
        ∃ entry ∈ entries, entry.Declares name := by
  constructor
  · intro hName
    rcases List.mem_flatMap.mp hName with ⟨entry, hEntry, hUsed⟩
    rcases List.mem_append.mp hUsed with hHere | hDeclared
    · cases hSome : entry.coerced? with
      | none =>
          rw [hSome] at hHere
          cases hHere
      | some e' =>
          have hContent :
              e'.content ∈ es.map Element.content := by
            rw [contents_of_coerceFrom hCoerced]
            exact List.mem_map_of_mem
              (List.mem_filterMap.mpr ⟨entry, hEntry, hSome⟩)
          rcases List.mem_map.mp hContent with ⟨e, he, hSame⟩
          rw [hSome, Option.elim_some, ← hSame] at hHere
          exact .inl ⟨e, he, hHere⟩
    · exact .inr
        ⟨entry, hEntry, Entry.mem_declared_iff.mp hDeclared⟩
  · rintro (⟨e, hMember, hHere⟩ | ⟨entry, hEntry, hDeclares⟩)
    · exact placeholderNames_subset_namesUsed hCoerced hMember
        hHere
    · exact List.mem_flatMap.mpr
        ⟨entry, hEntry, List.mem_append_right _
          (Entry.mem_declared_iff.mpr hDeclares)⟩

/-
  The names that are listed for two lists of entries together are
  those of the first, and then those of the second that are not
  among them.  What is noticed or fails on the way is the same as
  one after the other.  No name is listed twice, and the names are
  those of placeholders in the texts of elements and those that
  entries declare.
-/
theorem usedVariableNames_append
    [Machine]
    (xs ys : List Entry) :
    (usedVariableNames (.entries (xs ++ ys)) = do
        let a ← usedVariableNames (.entries xs)
        let b ← usedVariableNames (.entries ys)
        return a ++ b.filter fun name => name ∉ a) ∧
      ∀ names,
        (usedVariableNames (.entries (xs ++ ys))).result =
            .ok names →
          names.Nodup ∧
            ∃ es, (coerceEntries (xs ++ ys)).result = .ok es ∧
              ∀ name, name ∈ names ↔
                (∃ e ∈ es, ∃ key ∈ textBearing, ∃ t,
                  e.content.Shows key t ∧
                    ∃ p ∈ placeholders t, p.name = name) ∨
                  ∃ entry ∈ xs ++ ys, entry.Declares name := by
  constructor
  · have hNames (entries : List Entry) :
        usedVariableNames (.entries entries) = do
          let rows ← Outcome.each Entry.usedNames entries
          return distinct rows.flatten :=
      rfl
    simp only [hNames, Outcome.each_append, Outcome.bind_assoc,
      Outcome.pure_bind, List.flatten_append, distinct_append]
  · intro names hNames
    rcases usedVariableNames_eq_ok_iff.mp hNames with
      ⟨entries, hEntries, hRead, rfl⟩
    obtain rfl : xs ++ ys = entries := Except.ok.inj hEntries
    rcases exists_coerceFrom hRead 0 with ⟨es, hCoerced⟩
    refine ⟨nodup_addDistinct List.nodup_nil _, es, hCoerced, ?_⟩
    intro name
    rw [mem_distinct_iff, mem_flatMap_namesUsed_iff hCoerced]
    simp only [Content.mem_placeholderNames_iff]

/-
  A text, and a note that has one of its names again, with an
  entry between them that is no element.
-/
theorem usedVariableNames_append_again :
    let text : Entry :=
      .object [("type", .text "text"), ("properties",
        .object [("text",
          .text "\x7b\x7bb\x7d\x7d \x7b\x7ba\x7d\x7d")])]
    let note : Entry :=
      .object [("type", .text "note"), ("properties",
        .object [("data", .text "\x7b\x7ba\x7d\x7d"),
          ("variables", .tuple [.text "d", .text "", .text "b"])])]
    let xs : List Entry := [text]
    let ys : List Entry := [.other "NoneType", note]
    (usedVariableNames (.entries xs)).result =
        .ok ["b", "a"] ∧
      (usedVariableNames (.entries ys)).result =
        .ok ["a", "d", "b"] ∧
      (usedVariableNames (.entries (xs ++ ys))).result =
        .ok ["b", "a", "d"] ∧
      ∃ es, (coerceEntries (xs ++ ys)).result = .ok es ∧
        ∀ name : Text, name ∈ (["b", "a", "d"] : List Text) ↔
          (∃ e ∈ es, ∃ key ∈ textBearing, ∃ t,
            e.content.Shows key t ∧
              ∃ p ∈ placeholders t, p.name = name) ∨
            ∃ entry ∈ xs ++ ys, entry.Declares name := by
  intro text note xs ys
  have hNames :
      (usedVariableNames (.entries (xs ++ ys))).result =
        .ok ["b", "a", "d"] := by
    rfl
  exact ⟨by rfl, by rfl, hNames,
    ((usedVariableNames_append xs ys).2 _ hNames).2⟩

end LabelPress

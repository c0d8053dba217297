import LabelPress.Machine.Usual
import LabelPress.Proofs.Label.Coercion
import LabelPress.Proofs.Value.Fields
import LabelPress.Variable.Usage
import Mathlib.Data.List.Induction
import Mathlib.Data.List.Nodup

/-
  The names that a substitution looks up.

  A substitution looks up no names but those that the label is
  said to use.  So tables that agree on these names are as good
  as each other, down to the faults and the notices, and what a
  table holds under other names has no effect.

  Main declarations:
    * `Bindings.bound?`, `Bindings.AgreeOn`
    * `resolve_of_agreeOn`
    * `Content.substitute_of_agreeOn`
    * `addDistinct`, `distinct_append`
    * `Entry.namesUsed`, `usedVariableNames_eq_ok_iff`
    * `substitute_of_usedVariableNames`
-/

namespace LabelPress

variable {b₁ b₂ : Bindings}

------------------------------------------------------------
-- Agreement
------------------------------------------------------------

namespace Bindings

/- The tagged value under a name, if there is one. -/
def bound?
    (b : Bindings)
    (name : Text) :
    Except Fault (Option BoundValue) :=
  (b.get? name).map (Option.map Binding.classify)

/- One value, or none, under each of some names. -/
def AgreeOn
    (b₁ b₂ : Bindings)
    (names : List Text) :
    Prop :=
  ∀ name ∈ names, b₁.bound? name = b₂.bound? name

theorem AgreeOn.mono
    {names more : List Text}
    (hAgree : b₁.AgreeOn b₂ more)
    (hSubset : names ⊆ more) :
    b₁.AgreeOn b₂ names := by
  intro name hMember
  exact hAgree name (hSubset hMember)

/- Entries under other names can be left out of a table. -/
theorem agreeOn_filter
    (rows : List (Text × Binding))
    (names : List Text) :
    (table rows).AgreeOn
      (table (rows.filter fun row => names.contains row.1))
      names := by
  intro name hName
  have hLookup :
      (rows.filter fun row =>
          names.contains row.1).lookup name =
        rows.lookup name := by
    induction rows with
    | nil => rfl
    | cons row rows ih =>
        rcases row with ⟨key, b⟩
        by_cases hKey : key ∈ names
        · rw [List.filter_cons_of_pos (by simpa using hKey),
            List.lookup_cons, List.lookup_cons, ih]
        · have hOther : (name == key) = false := by
            apply beq_eq_false_iff_ne.mpr
            rintro rfl
            exact hKey hName
          rw [List.filter_cons_of_neg (by simpa using hKey),
            List.lookup_cons, hOther, ih]
  rw [bound?, bound?, get?, get?, hLookup]

end Bindings

------------------------------------------------------------
-- Texts
------------------------------------------------------------

/- What a placeholder becomes, from the value under its name. -/
theorem Placeholder.resolve_eq_bound?
    [Machine]
    (p : Placeholder)
    (b : Bindings) :
    p.resolve b =
      (Outcome.lift (b.bound? p.name) >>= fun
        | some v => v.render p.format
        | none => do
            Outcome.note (.unboundPlaceholder p.text)
            return p.text) := by
  unfold Placeholder.resolve Bindings.bound?
  cases b.get? p.name with
  | error f => rfl
  | ok found =>
      cases found with
      | none => rfl
      | some bound => rfl

theorem Piece.resolve_of_agreeOn
    [Machine]
    {piece : Piece}
    (hAgree :
      b₁.AgreeOn b₂
        (piece.placeholder?.toList.map Placeholder.name)) :
    piece.resolve b₁ = piece.resolve b₂ := by
  cases piece with
  | literal c => rfl
  | placeholder p =>
      have hBound : b₁.bound? p.name = b₂.bound? p.name :=
        hAgree p.name List.mem_cons_self
      change p.resolve b₁ = p.resolve b₂
      rw [Placeholder.resolve_eq_bound?,
        Placeholder.resolve_eq_bound?, hBound]

/- A value is resolved from its references alone. -/
theorem resolve_of_agreeOn
    [Machine]
    {v : Value}
    (hAgree :
      b₁.AgreeOn b₂ ((references v).map Placeholder.name)) :
    resolve v b₁ = resolve v b₂ := by
  cases v with
  | text t =>
      have hPieces :
          ∀ piece ∈ pieces t,
            piece.resolve b₁ = piece.resolve b₂ := by
        intro piece hMember
        apply Piece.resolve_of_agreeOn
        apply hAgree.mono
        apply List.map_subset
        intro p hPlaceholder
        exact List.mem_filterMap.mpr
          ⟨piece, hMember, Option.mem_toList.mp hPlaceholder⟩
      simp only [resolve, resolveText,
        Outcome.each_congr hPieces]
  | _ => rfl

------------------------------------------------------------
-- Keys of Fields
------------------------------------------------------------

/- The names of the placeholders in some values. -/
def namesIn
    (vs : List Value) :
    List Text :=
  (vs.flatMap references).map Placeholder.name

theorem namesIn_subset
    {vs more : List Value}
    (hSubset : vs ⊆ more) :
    namesIn vs ⊆ namesIn more := by
  apply List.map_subset
  intro p hMember
  rcases List.mem_flatMap.mp hMember with ⟨v, hv, hp⟩
  exact List.mem_flatMap.mpr ⟨v, hSubset hv, hp⟩

theorem resolve_of_agreeOn_namesIn
    [Machine]
    {vs : List Value}
    {v : Value}
    (hAgree : b₁.AgreeOn b₂ (namesIn vs))
    (hMember : v ∈ vs) :
    resolve v b₁ = resolve v b₂ := by
  apply resolve_of_agreeOn
  apply hAgree.mono
  apply List.map_subset
  intro p hp
  exact List.mem_flatMap.mpr ⟨v, hMember, hp⟩

/-
  Keys are resolved from the values under them.  The values of
  the later keys are those before the first key was set.
-/
theorem substituteKeys_of_agreeOn
    [Machine]
    {fields : Fields}
    {keys : List Text}
    (hNodup : keys.Nodup)
    (hAgree :
      b₁.AgreeOn b₂
        (namesIn (keys.map (Value.fieldOf fields)))) :
    substituteKeys b₁ fields keys =
      substituteKeys b₂ fields keys := by
  induction keys generalizing fields with
  | nil => rfl
  | cons key keys ih =>
      rw [List.nodup_cons] at hNodup
      have hRest :
          b₁.AgreeOn b₂
            (namesIn (keys.map (Value.fieldOf fields))) := by
        apply hAgree.mono
        apply namesIn_subset
        exact List.subset_cons_self _ _
      rw [substituteKeys, substituteKeys]
      cases hGet : fields.get? key with
      | none => exact ih hNodup.2 hRest
      | some v =>
          have hValue : resolve v b₁ = resolve v b₂ :=
            resolve_of_agreeOn_namesIn hAgree
              (mem_map_fieldOf List.mem_cons_self hGet)
          simp only [hValue]
          apply Outcome.bind_congr
          intro w _
          apply ih hNodup.2
          rw [Fields.map_fieldOf_set hNodup.1]
          exact hRest

theorem changesKeys_of_agreeOn
    [Machine]
    {fields : Fields}
    {keys : List Text}
    (hAgree :
      b₁.AgreeOn b₂
        (namesIn (keys.map (Value.fieldOf fields)))) :
    changesKeys b₁ fields keys =
      changesKeys b₂ fields keys := by
  induction keys with
  | nil => rfl
  | cons key keys ih =>
      have hRest :
          changesKeys b₁ fields keys =
            changesKeys b₂ fields keys := by
        apply ih
        apply hAgree.mono
        apply namesIn_subset
        exact List.subset_cons_self _ _
      rw [changesKeys, changesKeys]
      cases hGet : fields.get? key with
      | none => exact hRest
      | some v =>
          have hValue : resolve v b₁ = resolve v b₂ :=
            resolve_of_agreeOn_namesIn hAgree
              (mem_map_fieldOf List.mem_cons_self hGet)
          simp only [hValue, hRest]

------------------------------------------------------------
-- Contents
------------------------------------------------------------

theorem substituteForeign_of_agreeOn
    [Machine]
    {v : Value}
    (hAgree : b₁.AgreeOn b₂ (namesIn v.textValues)) :
    substituteForeign b₁ v = substituteForeign b₂ v := by
  cases v with
  | object fields =>
      simp only [substituteForeign, keepFields,
        changesKeys_of_agreeOn hAgree]
  | record kind fields =>
      cases kind with
      | properties type =>
          simp only [substituteForeign,
            substituteKeys_of_agreeOn (by decide) hAgree]
      | _ => rfl
  | _ => rfl

theorem substituteLoose_of_agreeOn
    [Machine]
    {v : Value}
    (hAgree : b₁.AgreeOn b₂ (namesIn v.textValues)) :
    substituteLoose b₁ v = substituteLoose b₂ v := by
  cases v with
  | object fields =>
      simp only [substituteLoose,
        substituteKeys_of_agreeOn (by decide) hAgree]
  | record kind fields =>
      cases kind with
      | properties type =>
          simp only [substituteLoose, keepFields,
            changesKeys_of_agreeOn hAgree]
      | _ => rfl
  | _ => rfl

/- A stored record is resolved from its text-bearing values. -/
theorem Stored.substitute_of_agreeOn
    [Machine]
    {α : Type}
    {values : α → List Value}
    {f₁ f₂ : α → Outcome α}
    {stored : Stored α}
    (hAgree :
      b₁.AgreeOn b₂ (namesIn (stored.textValues values)))
    (hStep :
      ∀ p, b₁.AgreeOn b₂ (namesIn (values p)) → f₁ p = f₂ p) :
    stored.substitute b₁ f₁ = stored.substitute b₂ f₂ := by
  cases stored with
  | record p => simp only [Stored.substitute, hStep p hAgree]
  | foreign v =>
      simp only [Stored.substitute,
        substituteForeign_of_agreeOn hAgree]

/- A content is resolved from its text-bearing values. -/
theorem Content.substitute_of_agreeOn
    [Machine]
    {content : Content}
    (hAgree :
      b₁.AgreeOn b₂ (namesIn content.textValues)) :
    content.substitute b₁ = content.substitute b₂ := by
  -- a property that a record has is all that it resolves
  have hProperty :
      ∀ v : Value, b₁.AgreeOn b₂ (namesIn [v]) →
        resolve v b₁ = resolve v b₂ := by
    intro v hOne
    exact resolve_of_agreeOn_namesIn hOne List.mem_cons_self
  cases content with
  | text stored =>
      simp only [substitute]
      rw [Stored.substitute_of_agreeOn hAgree]
      intro p hOne
      simp only [hProperty p.text hOne]
  | image stored =>
      simp only [substitute]
      rw [Stored.substitute_of_agreeOn hAgree]
      intro p hOne
      simp only [hProperty p.src hOne]
  | barcode stored =>
      simp only [substitute]
      rw [Stored.substitute_of_agreeOn hAgree]
      intro p hOne
      simp only [hProperty p.data hOne]
  | line stored =>
      simp only [substitute]
      rw [Stored.substitute_of_agreeOn hAgree fun _ _ => rfl]
  | box stored =>
      simp only [substitute]
      rw [Stored.substitute_of_agreeOn hAgree fun _ _ => rfl]
  | circle stored =>
      simp only [substitute]
      rw [Stored.substitute_of_agreeOn hAgree fun _ _ => rfl]
  | unknown elementType properties =>
      simp only [substitute,
        substituteLoose_of_agreeOn hAgree]
  | bare => rfl

------------------------------------------------------------
-- Used Names
------------------------------------------------------------

/- Names that were seen, with those of others that were not. -/
def addDistinct
    (seen names : List Text) :
    List Text :=
  names.foldl
    (fun seen name =>
      if seen.contains name then seen else seen ++ [name])
    seen

theorem addDistinct_cons
    (seen names : List Text)
    (name : Text) :
    addDistinct seen (name :: names) =
      addDistinct
        (if seen.contains name then seen else seen ++ [name])
        names :=
  rfl

theorem addDistinct_append
    (seen names more : List Text) :
    addDistinct seen (names ++ more) =
      addDistinct (addDistinct seen names) more :=
  List.foldl_append

theorem mem_addDistinct_iff
    {seen names : List Text}
    {name : Text} :
    name ∈ addDistinct seen names ↔
      name ∈ seen ∨ name ∈ names := by
  induction names generalizing seen with
  | nil => simp [addDistinct]
  | cons first names ih =>
      rw [addDistinct_cons, ih]
      split_ifs with hSeen
      · have hMember : first ∈ seen := by simpa using hSeen
        constructor
        · rintro (hLeft | hRight)
          · exact .inl hLeft
          · exact .inr (List.mem_cons_of_mem first hRight)
        · rintro (hLeft | hRight)
          · exact .inl hLeft
          · rcases List.mem_cons.mp hRight with rfl | hLater
            · exact .inl hMember
            · exact .inr hLater
      · rw [List.mem_append, List.mem_singleton,
          List.mem_cons, or_assoc]

/- Names that were all seen add none. -/
theorem addDistinct_of_subset
    {seen names : List Text}
    (hSeen : names ⊆ seen) :
    addDistinct seen names = seen := by
  induction names with
  | nil => rfl
  | cons name names ih =>
      rcases List.cons_subset.mp hSeen with ⟨hFirst, hRest⟩
      rw [addDistinct_cons,
        if_pos (List.contains_iff_mem.mpr hFirst)]
      exact ih hRest

/-
  Names that were seen come first, then the others, each once.
  The induction is on the names from the last one on, which is
  the one that is looked for in all before it.
-/
theorem addDistinct_eq_append
    (seen names : List Text) :
    addDistinct seen names =
      seen ++ (addDistinct [] names).filter
        fun name => name ∉ seen := by
  induction names using List.reverseRecOn with
  | nil => exact (List.append_nil seen).symm
  | append_singleton names name ih =>
      rw [addDistinct_append, addDistinct_append,
        addDistinct_cons, addDistinct_cons]
      change
        (if (addDistinct seen names).contains name then
            addDistinct seen names
          else addDistinct seen names ++ [name]) =
        seen ++
          (if (addDistinct [] names).contains name then
              addDistinct [] names
            else addDistinct [] names ++ [name]).filter _
      simp only [List.contains_iff_mem, mem_addDistinct_iff,
        List.not_mem_nil, false_or]
      by_cases hNames : name ∈ names
      · rw [if_pos (.inr hNames), if_pos hNames, ih]
      · rw [if_neg hNames, List.filter_append]
        by_cases hSeen : name ∈ seen
        · have hNone :
              [name].filter (fun name => name ∉ seen) = [] := by
            simpa using hSeen
          rw [if_pos (.inl hSeen), hNone, List.append_nil, ih]
        · have hSelf :
              [name].filter (fun name => name ∉ seen) =
                [name] := by
            simpa using hSeen
          rw [if_neg (not_or.mpr ⟨hSeen, hNames⟩), hSelf, ih,
            List.append_assoc]

/- Of names behind others only those that are new are kept. -/
theorem distinct_append
    (names more : List Text) :
    distinct (names ++ more) =
      distinct names ++ (distinct more).filter
        fun name => name ∉ distinct names :=
  (addDistinct_append [] names more).trans
    (addDistinct_eq_append (distinct names) more)

/- Adding names leaves no name twice. -/
theorem nodup_addDistinct
    {seen : List Text}
    (hSeen : seen.Nodup)
    (names : List Text) :
    (addDistinct seen names).Nodup := by
  induction names generalizing seen with
  | nil => exact hSeen
  | cons name names ih =>
      rw [addDistinct_cons]
      split_ifs with hMember
      · exact ih hSeen
      · apply ih
        rw [List.contains_iff_mem] at hMember
        exact List.nodup_append_comm.mp
          (List.nodup_cons.mpr ⟨hMember, hSeen⟩)

/- Keeping the first of equal names loses no name. -/
theorem mem_distinct_iff
    {names : List Text}
    {name : Text} :
    name ∈ distinct names ↔ name ∈ names := by
  change name ∈ addDistinct [] names ↔ _
  simp [mem_addDistinct_iff]

namespace Entry

variable [Machine]

/- The names of an entry that can be read. -/
def namesUsed
    (entry : Entry) :
    List Text :=
  (entry.coerced?.elim [] fun e => e.content.placeholderNames) ++
    entry.declared

/- An entry that can be read has its names, an other one none. -/
theorem result_usedNames
    (entry : Entry) :
    entry.usedNames.result = do
      let _ ← (entry.coerce? 0).result
      return entry.namesUsed := by
  rw [usedNames, Outcome.result_bind, namesUsed, coerced?]
  cases hHere : (entry.coerce? 0).result with
  | error f => rfl
  | ok e? =>
      cases e? with
      | some e => rfl
      | none =>
          cases entry with
          | element e => cases hHere
          | object fields =>
              rw [coerce?, Outcome.result_bind] at hHere
              rcases Outcome.bind_eq_ok_iff.mp hHere with
                ⟨e, _, hSome⟩
              cases hSome
          | other kind => rfl

end Entry

/- Names are listed where all entries can be read. -/
theorem usedVariableNames_eq_ok_iff
    [Machine]
    {source : EntrySource}
    {names : List Text} :
    (usedVariableNames source).result = .ok names ↔
      ∃ entries, source.entries? = .ok entries ∧
        (∀ entry ∈ entries, entry.Coerces) ∧
        names = distinct (entries.flatMap Entry.namesUsed) := by
  simp only [usedVariableNames, Outcome.result_bind,
    Outcome.result_liftM, Outcome.result_each,
    Entry.result_usedNames, Outcome.bind_eq_ok_iff,
    Outcome.pure_eq_ok, Outcome.result_pure,
    Outcome.mapM_then_eq_ok_iff, List.flatMap_def]
  constructor
  · rintro ⟨entries, hEntries, rows, ⟨hRead, rfl⟩, hNames⟩
    exact ⟨entries, hEntries, hRead, (Except.ok.inj hNames).symm⟩
  · rintro ⟨entries, hEntries, hRead, rfl⟩
    exact ⟨entries, hEntries, _, ⟨hRead, rfl⟩, rfl⟩

/- The placeholders of elements are among their entries' names. -/
theorem placeholderNames_subset_namesUsed
    [Machine]
    {entries : List Entry}
    {es : List Element}
    (hCoerced : (coerceEntries entries).result = .ok es)
    {e : Element}
    (hMember : e ∈ es) :
    e.content.placeholderNames ⊆
      entries.flatMap Entry.namesUsed := by
  have hContent :
      e.content ∈ es.map Element.content :=
    List.mem_map_of_mem hMember
  rw [contents_of_coerceFrom hCoerced] at hContent
  rcases List.mem_map.mp hContent with ⟨e', hCoerced', hSame⟩
  rcases List.mem_filterMap.mp hCoerced' with
    ⟨entry, hEntry, hSome⟩
  intro name hName
  refine List.mem_flatMap.mpr
    ⟨entry, hEntry, List.mem_append_left _ ?_⟩
  rw [hSome, Option.elim_some, hSame]
  exact hName

/-
  The placeholders of the elements of a label are among the names
  that it uses, although the two are read from the entries apart.
-/
theorem placeholderNames_subset_usedVariableNames
    [Machine]
    {source : EntrySource}
    {entries : List Entry}
    {es : List Element}
    {names : List Text}
    (hEntries : source.entries? = .ok entries)
    (hCoerced : (coerceEntries entries).result = .ok es)
    (hNames : (usedVariableNames source).result = .ok names)
    {e : Element}
    (hMember : e ∈ es) :
    e.content.placeholderNames ⊆ names := by
  rcases usedVariableNames_eq_ok_iff.mp hNames with
    ⟨given, hGiven, _, rfl⟩
  obtain rfl : entries = given :=
    Except.ok.inj (hEntries.symm.trans hGiven)
  intro name hName
  exact mem_distinct_iff.mpr
    (placeholderNames_subset_namesUsed hCoerced hMember hName)

/-
  Tables that agree on the names that a label uses substitute
  alike: the same elements or the same fault, and the same
  notices.  So the entries of a table under other names can be
  left out.
-/
theorem substitute_of_usedVariableNames
    [Machine]
    {source : EntrySource}
    {names : List Text}
    (hNames : (usedVariableNames source).result = .ok names) :
    (∀ b₁ b₂ : Bindings, b₁.AgreeOn b₂ names →
      substitute source b₁ = substitute source b₂) ∧
    ∀ rows : List (Text × Binding),
      substitute source (.table rows) =
        substitute source
          (.table
            (rows.filter fun row => names.contains row.1)) := by
  have hAgreement :
      ∀ b₁ b₂ : Bindings, b₁.AgreeOn b₂ names →
        substitute source b₁ = substitute source b₂ := by
    intro b₁ b₂ hAgree
    unfold substitute
    apply Outcome.bind_congr
    intro entries hEntries
    apply Outcome.bind_congr
    intro es hCoerced
    apply Outcome.each_congr
    intro e hMember
    have hSubset : e.content.placeholderNames ⊆ names :=
      placeholderNames_subset_usedVariableNames hEntries
        hCoerced hNames hMember
    have hContent :
        e.content.substitute b₁ = e.content.substitute b₂ :=
      Content.substitute_of_agreeOn (hAgree.mono hSubset)
    simp only [Element.substitute, hContent]
  refine ⟨hAgreement, ?_⟩
  intro rows
  exact hAgreement _ _ (Bindings.agreeOn_filter rows names)

/-
  Two tables that differ under a name that no element uses, and
  in how the value under another one is tagged.  Of the names in
  use one is unbound, and one is only declared.
-/
theorem substitute_of_usedVariableNames_differing :
    let text : Entry :=
      .object [("type", .text "text"), ("properties",
        .object [("text",
          .text "\x7b\x7ba|upper\x7d\x7d\x7b\x7bb\x7d\x7d")])]
    let odd : Entry :=
      .element
        { content := .line (.foreign
            (.object [("src", .text "\x7b\x7bb\x7d\x7d"),
              ("variables", .list [.text "c"])])) }
    let source : EntrySource := .entries [text, odd]
    let b₁ : Bindings :=
      .table [("z", .data (.int 1)), ("a", .data (.text "x"))]
    let b₂ : Bindings :=
      .table [("a", .bound ⟨.string, .text "x"⟩),
        ("b", .data .null)]
    (usedVariableNames source).result =
        .ok ["a", "b", "c"] ∧
      b₁.AgreeOn b₂ ["a", "b", "c"] ∧
      substitute source b₁ = substitute source b₂ := by
  intro text odd source b₁ b₂
  have hNames :
      (usedVariableNames source).result =
        .ok ["a", "b", "c"] := by
    rfl
  have hAgree : b₁.AgreeOn b₂ ["a", "b", "c"] := by
    intro name hMember
    simp only [List.mem_cons, List.not_mem_nil, or_false]
      at hMember
    rcases hMember with rfl | rfl | rfl
    · rfl
    · rfl
    · rfl
  exact ⟨hNames, hAgree,
    (substitute_of_usedVariableNames hNames).1 b₁ b₂ hAgree⟩

end LabelPress

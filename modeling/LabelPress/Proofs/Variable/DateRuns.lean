import LabelPress.Variable.DateFormat
import Mathlib.Data.List.Find
import Mathlib.Data.List.SplitBy

/-
  Dates rendered run by run.

  A token of a date format is a letter again and again.  So no
  token goes over a place between different characters, and a
  format can be taken apart there.  A run of one character is cut
  from the left into tokens of that letter: as many of the longest
  as there is room for, then of the next ones, and what is left
  over is copied.  What a token is replaced by is not looked at
  again.

  Main declarations:
    * `DateFormat.tokensOf`, `DateFormat.runText`
    * `DateFormat.tokenAt?_append`, `DateFormat.tokenAt?_run`
    * `DateFormat.renderFrom_append`, `DateFormat.renderFrom_run`
    * `DateFormat.render_run_by_run`
-/

namespace LabelPress

namespace DateFormat

------------------------------------------------------------
-- Letters of Tokens
------------------------------------------------------------

/- The tokens of a letter. -/
def tokensOf
    (c : CodePoint) :
    List Token :=
  tokens.filter fun t => t.letters.head? = some c

/- The lengths of the tokens of a letter, the longest first. -/
def tokenLengths
    (c : CodePoint) :
    List Nat :=
  if c = 'Y' then [4, 2]
  else if c = 'M' then [4, 3, 2, 1]
  else if c = 'D' ∨ c = 'H' ∨ c = 'm' ∨ c = 's' then [2, 1]
  else []

theorem letters_tokensOf
    (c : CodePoint) :
    (tokensOf c).map Token.letters =
      (tokenLengths c).map (Text.run c) := by
  unfold tokenLengths
  split_ifs with hYear hMonth hOther
  · rw [hYear]
    rfl
  · rw [hMonth]
    rfl
  · rcases hOther with rfl | rfl | rfl | rfl
    · rfl
    · rfl
    · rfl
    · rfl
  · -- no token starts with any other character
    have hHeads :
        ∀ s ∈ tokens.map Token.letters,
          s.head? = some (.char 'Y') ∨ s.head? = some (.char 'M') ∨
            s.head? = some (.char 'D') ∨ s.head? = some (.char 'H') ∨
            s.head? = some (.char 'm') ∨
            s.head? = some (.char 's') := by
      decide +kernel
    have hNone : tokensOf c = [] := by
      refine List.filter_eq_nil_iff.mpr fun t hToken hHead => ?_
      rw [decide_eq_true_eq] at hHead
      have hLetter := hHeads _ (List.mem_map_of_mem hToken)
      simp only [hHead, Option.some.injEq] at hLetter
      rcases hLetter with h | h | h
      · exact hYear h
      · exact hMonth h
      · exact hOther h
    rw [hNone]
    rfl

/- Every token is a letter again and again. -/
theorem exists_run_of_mem_tokens
    {t : Token}
    (hToken : t ∈ tokens) :
    ∃ c n, t.letters = Text.run c (n + 1) := by
  have hAll :
      ∀ s ∈ tokens.map Token.letters,
        s = Text.run (s.headD default) (s.length - 1 + 1) := by
    decide +kernel
  exact ⟨_, _, hAll t.letters (List.mem_map_of_mem hToken)⟩

------------------------------------------------------------
-- Tokens at a Place
------------------------------------------------------------

/- Whether a text does not go on with its last character. -/
def Apart
    (s u : Text) :
    Prop :=
  ∀ c, s.getLast? = some c → u.head? ≠ some c

theorem Apart.tail
    {c : CodePoint}
    {s u : Text}
    (hApart : Apart (c :: s) u) :
    Apart s u := by
  intro d hLast
  refine hApart d ?_
  rw [List.getLast?_cons, hLast]
  rfl

/- A run at the start of two texts is one at the first's start. -/
theorem run_prefix_append_iff
    {c : CodePoint}
    {n : Nat}
    {s u : Text}
    (hSome : s ≠ [])
    (hApart : Apart s u) :
    Text.run c n <+: s ++ u ↔ Text.run c n <+: s := by
  constructor
  · intro hStarts
    rcases List.prefix_or_prefix_of_prefix hStarts
        (List.prefix_append s u) with hShort | ⟨rest, hRest⟩
    · exact hShort
    · cases rest with
      | nil =>
          rw [List.append_nil] at hRest
          exact ⟨[], by rw [List.append_nil, hRest]⟩
      | cons d rest =>
          -- the run goes on behind the last character
          rw [← hRest, List.prefix_append_right_inj] at hStarts
          have hHead : u.head? = some d := by
            rcases hStarts with ⟨after, rfl⟩
            rfl
          have hAll : ∀ e ∈ s ++ d :: rest, e = c := by
            intro e hMember
            rw [hRest] at hMember
            exact List.eq_of_mem_replicate hMember
          have hLast : s.getLast? = some d := by
            rw [List.getLast?_eq_some_getLast hSome,
              hAll _ (List.mem_append_left _
                (List.getLast_mem hSome)),
              hAll d (List.mem_append_right s List.mem_cons_self)]
          exact absurd hHead (hApart d hLast)
  · intro hStarts
    exact hStarts.trans (List.prefix_append s u)

theorem tokenAt?_append
    {s u : Text}
    (hSome : s ≠ [])
    (hApart : Apart s u) :
    tokenAt? (s ++ u) = tokenAt? s := by
  unfold tokenAt?
  refine List.find?_congr fun t hToken => ?_
  rcases exists_run_of_mem_tokens hToken with ⟨c, n, hLetters⟩
  rw [hLetters, Bool.eq_iff_iff, List.isPrefixOf_iff_prefix,
    List.isPrefixOf_iff_prefix]
  exact run_prefix_append_iff hSome hApart

theorem run_prefix_run_iff
    {c d : CodePoint}
    {k n : Nat} :
    Text.run d (k + 1) <+: Text.run c n ↔ d = c ∧ k + 1 ≤ n := by
  constructor
  · rintro ⟨rest, hRest⟩
    rcases List.append_eq_replicate_iff.mp hRest with
      ⟨hLength, hRun, _⟩
    rw [Text.run, List.length_replicate] at hLength hRun
    refine ⟨?_, by omega⟩
    rw [List.replicate_succ, List.replicate_succ] at hRun
    exact List.head_eq_of_cons_eq hRun
  · rintro ⟨rfl, hRoom⟩
    refine ⟨Text.run d (n - (k + 1)), ?_⟩
    unfold Text.run
    rw [List.replicate_append_replicate]
    congr 1
    omega

/- A run starts with the first token of its letter that fits. -/
theorem tokenAt?_run
    (c : CodePoint)
    (n : Nat) :
    tokenAt? (Text.run c n) =
      (tokensOf c).find? fun t => t.letters.length ≤ n := by
  unfold tokenAt? tokensOf
  rw [List.find?_filter]
  refine List.find?_congr fun t hToken => ?_
  rcases exists_run_of_mem_tokens hToken with ⟨d, k, hLetters⟩
  rw [hLetters, Bool.eq_iff_iff, List.isPrefixOf_iff_prefix,
    run_prefix_run_iff]
  simp [Text.run, List.replicate_succ]

------------------------------------------------------------
-- Formats in Two Parts
------------------------------------------------------------

/- The characters that a token covers are skipped. -/
theorem renderFrom_eq_drop
    (m : Moment)
    (skip : Nat)
    (s : Text) :
    renderFrom m skip s = renderFrom m 0 (s.drop skip) := by
  induction s generalizing skip with
  | nil =>
      rw [List.drop_nil, renderFrom, renderFrom]
  | cons c s ih =>
      cases skip with
      | zero => rfl
      | succ skip =>
          rw [renderFrom, List.drop_succ_cons]
          exact ih skip

theorem length_le_of_tokenAt?
    {s : Text}
    {t : Token}
    (hFound : tokenAt? s = some t) :
    t.letters.length ≤ s.length := by
  have hStarts := List.find?_some hFound
  exact (List.isPrefixOf_iff_prefix.mp hStarts).length_le

/- By induction on the first part and what is skipped of it. -/
theorem renderFrom_append
    (m : Moment)
    {skip : Nat}
    {s u : Text}
    (hSkip : skip ≤ s.length)
    (hApart : Apart s u) :
    renderFrom m skip (s ++ u) =
      renderFrom m skip s ++ renderFrom m 0 u := by
  induction s generalizing skip with
  | nil =>
      have hZero : skip = 0 := Nat.le_zero.mp hSkip
      rw [hZero]
      rfl
  | cons c s ih =>
      cases skip with
      | succ skip =>
          rw [List.length_cons] at hSkip
          exact ih (Nat.le_of_succ_le_succ hSkip) hApart.tail
      | zero =>
          have hToken :=
            tokenAt?_append (List.cons_ne_nil c s) hApart
          rw [List.cons_append] at hToken ⊢
          rw [renderFrom, renderFrom, hToken]
          cases hFound : tokenAt? (c :: s) with
          | none =>
              have hRest := ih (Nat.zero_le _) hApart.tail
              simp only [hRest, List.cons_append]
          | some t =>
              have hLength := length_le_of_tokenAt? hFound
              rw [List.length_cons] at hLength
              have hRest :=
                ih (Nat.sub_le_of_le_add hLength) hApart.tail
              simp only [hRest, List.append_assoc]

------------------------------------------------------------
-- Runs
------------------------------------------------------------

/-
  A run cut into as many of the first token as there is room for,
  then as many of the next one, and so on.  What is left over is
  copied.
-/
def runText
    (m : Moment)
    (c : CodePoint) :
    List Token → Nat → Text
  | [], n => Text.run c n
  | t :: ts, n =>
      (List.replicate (n / t.letters.length) (t.field m)).flatten ++
        runText m c ts (n % t.letters.length)

section Runs

variable {m : Moment}
variable {c : CodePoint}
variable {ts : List Token}
variable {n : Nat}

/- The first token that fits is cut off. -/
theorem runText_of_some
    {t : Token}
    (hPositive : ∀ t ∈ ts, 0 < t.letters.length)
    (hFirst : (ts.find? fun t => t.letters.length ≤ n) = some t) :
    runText m c ts n =
      t.field m ++ runText m c ts (n - t.letters.length) := by
  induction ts with
  | nil => cases hFirst
  | cons first ts ih =>
      rcases List.forall_mem_cons.mp hPositive with ⟨hHere, hLater⟩
      by_cases hFits : first.letters.length ≤ n
      · rw [List.find?_cons_of_pos (by simpa using hFits)] at hFirst
        rw [← Option.some.inj hFirst, runText, runText,
          Nat.div_eq_sub_div hHere hFits,
          Nat.mod_eq_sub_mod hFits, List.replicate_succ,
          List.flatten_cons, List.append_assoc]
      · rw [List.find?_cons_of_neg (by simpa using hFits)] at hFirst
        have hShort : n < first.letters.length :=
          Nat.lt_of_not_le hFits
        have hLess : n - t.letters.length < first.letters.length :=
          Nat.lt_of_le_of_lt (Nat.sub_le _ _) hShort
        rw [runText, runText, Nat.div_eq_of_lt hShort,
          Nat.mod_eq_of_lt hShort, Nat.div_eq_of_lt hLess,
          Nat.mod_eq_of_lt hLess, ih hLater hFirst]
        rfl

/- Where no token fits, the run is left over. -/
theorem runText_of_none
    (hNone : ∀ t ∈ ts, n < t.letters.length) :
    runText m c ts n = Text.run c n := by
  induction ts with
  | nil => rfl
  | cons first ts ih =>
      rcases List.forall_mem_cons.mp hNone with ⟨hShort, hLater⟩
      rw [runText, Nat.div_eq_of_lt hShort,
        Nat.mod_eq_of_lt hShort, ih hLater]
      rfl

theorem length_pos_of_mem_tokensOf
    {t : Token}
    (hToken : t ∈ tokensOf c) :
    0 < t.letters.length := by
  rcases exists_run_of_mem_tokens (List.mem_of_mem_filter hToken)
    with ⟨d, k, hLetters⟩
  rw [hLetters, Text.run, List.length_replicate]
  exact Nat.succ_pos k

/- By strong induction on the length of the run. -/
theorem renderFrom_run
    (m : Moment)
    (c : CodePoint)
    (n : Nat) :
    renderFrom m 0 (Text.run c n) = runText m c (tokensOf c) n := by
  induction n using Nat.strongRecOn with
  | ind n ih =>
      cases n with
      | zero =>
          have hNone : ∀ t ∈ tokensOf c, 0 < t.letters.length :=
            fun t => length_pos_of_mem_tokensOf
          rw [runText_of_none hNone]
          rfl
      | succ n =>
          have hToken := tokenAt?_run c (n + 1)
          rw [Text.run, List.replicate_succ] at hToken ⊢
          rw [renderFrom, hToken]
          cases hFirst :
              (tokensOf c).find? fun t => t.letters.length ≤ n + 1
            with
          | none =>
              have hNone :
                  ∀ t ∈ tokensOf c, n + 1 < t.letters.length := by
                intro t hMember
                have hLong := List.find?_eq_none.mp hFirst t hMember
                simpa using hLong
              have hLess :
                  ∀ t ∈ tokensOf c, n < t.letters.length :=
                fun t hMember =>
                  Nat.lt_of_succ_lt (hNone t hMember)
              have hRest := ih n (Nat.lt_succ_self n)
              rw [runText_of_none hLess] at hRest
              rw [runText_of_none hNone]
              exact congrArg (List.cons c) hRest
          | some t =>
              have hMember := List.mem_of_find?_eq_some hFirst
              have hPositive := length_pos_of_mem_tokensOf hMember
              have hFits : t.letters.length ≤ n + 1 := by
                simpa using List.find?_some hFirst
              rw [runText_of_some
                (fun _ => length_pos_of_mem_tokensOf) hFirst]
              dsimp only
              rw [renderFrom_eq_drop, List.drop_replicate]
              have hRest :=
                ih (n + 1 - t.letters.length) (by omega)
              have hLength :
                  n - (t.letters.length - 1) =
                    n + 1 - t.letters.length := by
                omega
              rw [hLength]
              exact congrArg (t.field m ++ ·) hRest

end Runs

------------------------------------------------------------
-- Whole Formats
------------------------------------------------------------

/- What a run of one character is rendered as. -/
def renderRun
    (m : Moment) :
    Text → Text
  | [] => []
  | c :: cs => runText m c (tokensOf c) (cs.length + 1)

theorem renderFrom_of_isChain
    (m : Moment)
    {run : Text}
    (hRun : run.IsChain fun c d => (c == d) = true) :
    renderFrom m 0 run = renderRun m run := by
  cases run with
  | nil => rfl
  | cons c cs =>
      simp only [beq_iff_eq] at hRun
      have hRest := List.isChain_cons_eq_iff_eq_replicate.mp hRun
      have hWhole : c :: cs = Text.run c (cs.length + 1) := by
        rw [Text.run, List.replicate_succ, ← hRest]
      rw [renderRun, ← renderFrom_run, ← hWhole]

/- By induction on the parts, which are apart from each other. -/
theorem renderFrom_flatten
    (m : Moment)
    {parts : List Text}
    (hSome : [] ∉ parts)
    (hParts :
      parts.IsChain fun s u =>
        ∃ hs hu, (s.getLast hs == u.head hu) = false) :
    renderFrom m 0 parts.flatten =
      parts.flatMap (renderFrom m 0) := by
  induction parts with
  | nil => rfl
  | cons s parts ih =>
      rw [List.mem_cons, not_or] at hSome
      have hApart : Apart s parts.flatten := by
        intro c hLast hHead
        cases parts with
        | nil => cases hHead
        | cons u parts =>
            rcases (List.isChain_cons_cons.mp hParts).1 with
              ⟨hs, hu, hOther⟩
            rw [List.getLast?_eq_some_getLast hs] at hLast
            rw [List.flatten_cons, List.head?_append,
              List.head?_eq_some_head hu] at hHead
            rw [Option.some.inj hLast,
              Option.some.inj hHead] at hOther
            simp at hOther
      rw [List.flatten_cons, List.flatMap_cons,
        renderFrom_append m (Nat.zero_le _) hApart,
        ih hSome.2 hParts.tail]

theorem render_some
    (m : Moment)
    {spec : Text}
    (hSome : spec ≠ []) :
    render m (some spec) = renderFrom m 0 spec := by
  have hText : spec ≠ Text.ofString "" := hSome
  unfold render
  dsimp only
  rw [if_neg hText]

/-
  A format can be taken apart between different characters.  A run
  of one character is cut into the tokens of its letter, as many
  of the longest as there is room for, then of the next ones, and
  what is left over is copied.  So a format is rendered as its
  runs, one after another.
-/
theorem render_run_by_run
    (m : Moment) :
    (∀ s u : Text, s ≠ [] → u ≠ [] → s.getLast? ≠ u.head? →
      render m (some (s ++ u)) =
        render m (some s) ++ render m (some u)) ∧
    (∀ c n, 0 < n →
      render m (some (Text.run c n)) =
        runText m c (tokensOf c) n) ∧
    (∀ c,
      (tokensOf c).map Token.letters =
        (tokenLengths c).map (Text.run c)) ∧
    ∀ spec : Text, spec ≠ [] →
      render m (some spec) =
        (spec.splitBy (· == ·)).flatMap (renderRun m) := by
  refine ⟨fun s u hs hu hOther => ?_, fun c n hPositive => ?_,
    letters_tokensOf, fun spec hSome => ?_⟩
  · have hApart : Apart s u := by
      intro c hLast hHead
      exact hOther (hLast.trans hHead.symm)
    rw [render_some m (List.append_ne_nil_of_left_ne_nil hs u),
      render_some m hs, render_some m hu]
    exact renderFrom_append m (Nat.zero_le _) hApart
  · have hRun : Text.run c n ≠ [] := by
      rw [Text.run, Ne, List.replicate_eq_nil_iff]
      exact Nat.pos_iff_ne_zero.mp hPositive
    rw [render_some m hRun]
    exact renderFrom_run m c n
  · have hParts :=
      renderFrom_flatten m (List.nil_notMem_splitBy (· == ·) spec)
        (List.isChain_getLast_head_splitBy (· == ·) spec)
    rw [List.flatten_splitBy] at hParts
    rw [render_some m hSome, hParts]
    refine List.flatMap_congr fun run hMember => ?_
    exact renderFrom_of_isChain m
      (List.isChain_of_mem_splitBy hMember)

/- Years of four digits, years of two, and a letter left over. -/
example
    (m : Moment)
    (n : Nat) :
    runText m 'Y' (tokensOf 'Y') n =
      (List.replicate (n / 4) (paddedDigits 4 m.date.year)).flatten ++
        ((List.replicate (n % 4 / 2)
            (paddedDigits 2 (m.date.year % 100))).flatten ++
          Text.run 'Y' (n % 4 % 2)) := by
  rfl

/-
  A run of years with a letter left over, and a name of a month
  whose first letter looks like a token.
-/
theorem render_run_by_run_month :
    let m : Moment :=
      ⟨⟨2024, 3, 7, by decide⟩, ⟨9, 5, 3, 0, by decide⟩, none⟩
    let s : Text := "YYYYYYYMMMMM"
    let u : Text := "mD, YYY"
    (0 < 7 ∧ render m (some (Text.run 'Y' 7)) = "202424Y") ∧
      (s ≠ [] ∧ u ≠ [] ∧ s.getLast? ≠ u.head? ∧
        render m (some (s ++ u)) =
          "202424YMarch3" ++ Text.ofString "57, 24Y") ∧
      u ≠ [] ∧
        render m (some u) =
          (["m", "D", ",", " ", "YYY"].map fun run =>
            renderRun m (Text.ofString run)).flatten := by
  dsimp only
  have hParts :
      Text.ofString "YYYYYYYMMMMM" ≠ [] ∧
        Text.ofString "mD, YYY" ≠ [] ∧
        (Text.ofString "YYYYYYYMMMMM").getLast? ≠
          (Text.ofString "mD, YYY").head? := by
    decide
  refine ⟨⟨by decide, ?_⟩,
    ⟨hParts.1, hParts.2.1, hParts.2.2, ?_⟩, hParts.2.1, ?_⟩
  · rw [(render_run_by_run _).2.1 _ _ (by decide)]
    decide +kernel
  · rw [(render_run_by_run _).1 _ _ hParts.1 hParts.2.1 hParts.2.2]
    decide +kernel
  · rw [(render_run_by_run _).2.2.2 _ hParts.2.1]
    rfl

end DateFormat

end LabelPress

import LabelPress.Outcome
import Mathlib.Data.List.Basic

/-
  Results of outcomes, apart from their notices.

  The result of a sequence of steps is the sequence of the
  results, and steps over a list answer exactly when each of
  them does.

  Main declarations:
    * `Outcome.result_bind`, `Outcome.result_each`
    * `Outcome.each_append`
    * `Outcome.bind_congr`, `Outcome.each_congr`
    * `Outcome.bind_eq_ok_iff`, `Outcome.bind_eq_error_iff`
    * `Outcome.mapM_then_eq_ok_iff`, `Outcome.mapM_of_mapM`
    * `Outcome.mapM_eq_ok_iff_forall₂`
    * `Outcome.Yields`, with `Outcome.Yields.bind`
    * `Outcome.FailsOnly`, with `Outcome.failsOnly_bind_iff`
    * `Outcome.FailsAlike`, with `Outcome.FailsAlike.bind`
-/

namespace LabelPress

namespace Outcome

variable {α β ε : Type}

------------------------------------------------------------
-- Results of Steps
------------------------------------------------------------

@[simp] theorem result_bind
    (x : Outcome α)
    (f : α → Outcome β) :
    (x >>= f).result =
      x.result >>= fun a => (f a).result := by
  rcases x with ⟨result, notices⟩
  cases result with
  | error e => rfl
  | ok a => rfl

@[simp] theorem result_ok
    (a : α) :
    (ok a).result = .ok a :=
  rfl

@[simp] theorem result_pure
    (a : α) :
    (pure a : Outcome α).result = .ok a :=
  rfl

@[simp] theorem result_note
    (n : Notice) :
    (note n).result = .ok () :=
  rfl

/- A notice fails alone where its value is too deep in itself. -/
@[simp] theorem result_noteShowing
    (shown : Except Fault Unit)
    (n : Notice) :
    (noteShowing shown n).result =
      if shown = .error .nestedTooDeep then .error .nestedTooDeep
      else .ok () := by
  cases shown with
  | ok _ => rfl
  | error f =>
      simp only [noteShowing, Except.error.injEq]
      split_ifs with hDeep
      · rw [hDeep]
        rfl
      · rfl

/- A notice that may be lost never fails. -/
@[simp] theorem result_noteShown
    (shown : Except Fault Unit)
    (n : Notice) :
    (noteShown shown n).result = .ok () := by
  cases shown with
  | _ => rfl

@[simp] theorem result_liftM
    (r : Except Fault α) :
    (liftM r : Outcome α).result = r :=
  rfl

/- The results of steps over a list, one after another. -/
@[simp] theorem result_each
    (f : α → Outcome β)
    (as : List α) :
    (each f as).result =
      as.mapM fun a => (f a).result := by
  induction as with
  | nil => rfl
  | cons a as ih =>
      change
        (f a >>= fun b =>
          each f as >>= fun bs => ok (b :: bs)).result = _
      simp only [result_bind, result_ok, ih,
        List.mapM_cons]
      rfl

------------------------------------------------------------
-- Sequences of Steps
------------------------------------------------------------

/- How steps are nested has no effect on results and notices. -/
theorem bind_assoc
    {γ : Type}
    (x : Outcome α)
    (f : α → Outcome β)
    (g : β → Outcome γ) :
    (x >>= f) >>= g = x >>= fun a => f a >>= g := by
  rcases x with ⟨result, notices⟩
  cases result with
  | error e => rfl
  | ok a =>
      change
        Outcome.bind (Outcome.bind ⟨.ok a, notices⟩ f) g =
          Outcome.bind ⟨.ok a, notices⟩
            fun a => Outcome.bind (f a) g
      simp only [Outcome.bind]
      cases (f a).result with
      | error e => rfl
      | ok b => simp only [List.append_assoc]

theorem pure_bind
    (a : α)
    (f : α → Outcome β) :
    pure a >>= f = f a :=
  rfl

theorem bind_pure
    (x : Outcome α) :
    x >>= pure = x := by
  rcases x with ⟨result, notices⟩
  cases result with
  | error e => rfl
  | ok a =>
      change (⟨.ok a, notices ++ []⟩ : Outcome α) = _
      rw [List.append_nil]

theorem each_cons
    (f : α → Outcome β)
    (a : α)
    (as : List α) :
    each f (a :: as) = do
      let b ← f a
      let bs ← each f as
      return b :: bs :=
  rfl

/- Steps that just answer leave no notice on the way. -/
theorem each_ok
    (f : α → β)
    (as : List α) :
    each (fun a => ok (f a)) as = ok (as.map f) := by
  induction as with
  | nil => rfl
  | cons a as ih =>
      rw [each_cons, ih]
      rfl

/- Steps over two lists, one after the other. -/
theorem each_append
    (f : α → Outcome β)
    (as later : List α) :
    each f (as ++ later) = do
      let bs ← each f as
      let cs ← each f later
      return bs ++ cs := by
  induction as with
  | nil => exact (Outcome.bind_pure (each f later)).symm
  | cons a as ih =>
      simp only [List.cons_append, each_cons, ih,
        Outcome.bind_assoc, Outcome.pure_bind]

------------------------------------------------------------
-- Equal Steps
------------------------------------------------------------

/- A sequence is known from what follows the answers met. -/
theorem bind_congr
    {x : Outcome α}
    {f g : α → Outcome β}
    (hSame : ∀ a, x.result = .ok a → f a = g a) :
    (x >>= f) = x >>= g := by
  rcases x with ⟨result, notices⟩
  cases result with
  | error e => rfl
  | ok a =>
      have hStep : f a = g a := hSame a rfl
      change
        Outcome.bind ⟨.ok a, notices⟩ f =
          Outcome.bind ⟨.ok a, notices⟩ g
      simp only [Outcome.bind, hStep]

/- Steps that are equal on a list leave equal outcomes. -/
theorem each_congr
    {f g : α → Outcome β}
    {as : List α}
    (hSame : ∀ a ∈ as, f a = g a) :
    each f as = each g as := by
  induction as with
  | nil => rfl
  | cons a as ih =>
      rw [each, each, hSame a List.mem_cons_self,
        ih fun x hMember =>
          hSame x (List.mem_cons_of_mem a hMember)]

------------------------------------------------------------
-- Answers
------------------------------------------------------------

@[simp] theorem ok_bind
    (a : α)
    (f : α → Except ε β) :
    (Except.ok a >>= f) = f a :=
  rfl

@[simp] theorem error_bind
    (e : ε)
    (f : α → Except ε β) :
    (Except.error e >>= f) = .error e :=
  rfl

@[simp] theorem bind_ok
    (x : Except ε α) :
    (x >>= Except.ok) = x := by
  cases x with
  | error e => rfl
  | ok a => rfl

@[simp] theorem pure_eq_ok
    (a : α) :
    (pure a : Except ε α) = .ok a :=
  rfl

/- A sequence answers when both of its steps do. -/
theorem bind_eq_ok_iff
    {x : Except ε α}
    {f : α → Except ε β}
    {b : β} :
    (x >>= f) = .ok b ↔
      ∃ a, x = .ok a ∧ f a = .ok b := by
  cases x with
  | error e => simp
  | ok a => simp

/- A sequence fails where one of its steps does. -/
theorem bind_eq_error_iff
    {x : Except ε α}
    {f : α → Except ε β}
    {e : ε} :
    (x >>= f) = .error e ↔
      x = .error e ∨ ∃ a, x = .ok a ∧ f a = .error e := by
  cases x with
  | error e => simp
  | ok a => simp

theorem toOption_eq_some_iff
    {x : Except ε α}
    {a : α} :
    x.toOption = some a ↔ x = .ok a := by
  cases x with
  | error e => simp [Except.toOption]
  | ok b => simp [Except.toOption]

theorem map_eq_error_iff
    {x : Except ε α}
    {g : α → β}
    {e : ε} :
    x.map g = .error e ↔ x = .error e := by
  cases x with
  | error e => simp [Except.map]
  | ok a => simp [Except.map]

/-
  Steps that may fail but whose answers are known answer when
  none of them fails.
-/
theorem mapM_then_eq_ok_iff
    {γ : Type}
    {f : α → Except ε β}
    {g : α → γ}
    {as : List α}
    {cs : List γ} :
    (as.mapM fun a => f a >>= fun _ => .ok (g a)) = .ok cs ↔
      (∀ a ∈ as, ∃ b, f a = .ok b) ∧ cs = as.map g := by
  induction as generalizing cs with
  | nil => simp [eq_comm]
  | cons a as ih =>
      rw [List.mapM_cons, bind_eq_ok_iff,
        List.forall_mem_cons]
      constructor
      · rintro ⟨c, hHead, hTail⟩
        rcases bind_eq_ok_iff.mp hHead with ⟨b, hb, hc⟩
        obtain rfl : g a = c := Except.ok.inj hc
        rcases bind_eq_ok_iff.mp hTail with
          ⟨rest, hRest, hCons⟩
        obtain rfl : g a :: rest = cs := Except.ok.inj hCons
        rcases ih.mp hRest with ⟨hLater, rfl⟩
        exact ⟨⟨⟨b, hb⟩, hLater⟩, rfl⟩
      · rintro ⟨⟨⟨b, hb⟩, hLater⟩, rfl⟩
        refine ⟨g a, ?_, ?_⟩
        · rw [hb]
          rfl
        · rw [ih.mpr ⟨hLater, rfl⟩]
          rfl

/- Steps over a list answer where they do so one by one. -/
theorem mapM_eq_ok_iff_forall₂
    {f : α → Except ε β}
    {as : List α}
    {bs : List β} :
    as.mapM f = .ok bs ↔
      List.Forall₂ (fun a b => f a = .ok b) as bs := by
  constructor
  · intro hSteps
    induction as generalizing bs with
    | nil =>
        obtain rfl : [] = bs := Except.ok.inj hSteps
        exact .nil
    | cons a as ih =>
        rw [List.mapM_cons] at hSteps
        rcases bind_eq_ok_iff.mp hSteps with ⟨b, hb, hTail⟩
        rcases bind_eq_ok_iff.mp hTail with
          ⟨rest, hRest, hCons⟩
        obtain rfl : b :: rest = bs := Except.ok.inj hCons
        exact .cons hb (ih hRest)
  · intro hSteps
    induction hSteps with
    | nil => rfl
    | cons hb _ ih => rw [List.mapM_cons, hb, ih]; rfl

/- Where steps over a list answer, each of them does. -/
theorem exists_of_mapM_eq_ok
    {f : α → Except ε β}
    {as : List α}
    {bs : List β}
    (hSteps : as.mapM f = .ok bs)
    {a : α}
    (hMember : a ∈ as) :
    ∃ b ∈ bs, f a = .ok b := by
  induction as generalizing bs with
  | nil => exact absurd hMember List.not_mem_nil
  | cons first as ih =>
      rw [List.mapM_cons] at hSteps
      rcases bind_eq_ok_iff.mp hSteps with ⟨b, hb, hTail⟩
      rcases bind_eq_ok_iff.mp hTail with ⟨rest, hRest, hCons⟩
      obtain rfl : b :: rest = bs := Except.ok.inj hCons
      rcases List.mem_cons.mp hMember with rfl | hLater
      · exact ⟨b, List.mem_cons_self, hb⟩
      · rcases ih hRest hLater with ⟨b', hb', hStep⟩
        exact ⟨b', List.mem_cons_of_mem b hb', hStep⟩

/- Steps over a list answer together when each of them does. -/
theorem exists_mapM_iff
    {f : α → Except ε β}
    {as : List α} :
    (∃ bs, as.mapM f = .ok bs) ↔
      ∀ a ∈ as, ∃ b, f a = .ok b := by
  constructor
  · rintro ⟨bs, hSteps⟩ a hMember
    rcases exists_of_mapM_eq_ok hSteps hMember with ⟨b, _, hb⟩
    exact ⟨b, hb⟩
  · intro hAll
    induction as with
    | nil => exact ⟨[], rfl⟩
    | cons a as ih =>
        rcases List.forall_mem_cons.mp hAll with
          ⟨⟨b, hb⟩, hRest⟩
        rcases ih hRest with ⟨bs, hbs⟩
        exact ⟨b :: bs, by rw [List.mapM_cons, hb, hbs]; rfl⟩

/- What every step preserves is preserved by all in a row. -/
theorem foldlM_preserves
    {P : β → Prop}
    {f : β → α → Except ε β}
    (hStep : ∀ b a c, P b → f b a = .ok c → P c)
    {as : List α}
    {b c : β}
    (hStart : P b)
    (hSteps : as.foldlM f b = .ok c) :
    P c := by
  induction as generalizing b with
  | nil =>
      obtain rfl : b = c := Except.ok.inj hSteps
      exact hStart
  | cons a as ih =>
      rw [List.foldlM_cons] at hSteps
      rcases bind_eq_ok_iff.mp hSteps with ⟨d, hFirst, hRest⟩
      exact ih (hStep b a d hStart hFirst) hRest

/- Steps over the answers of steps can be taken at once. -/
theorem mapM_of_mapM
    {γ : Type}
    {f : α → Except ε β}
    {g : β → Except ε γ}
    {h : α → Except ε γ}
    {as : List α}
    {bs : List β}
    (hStep :
      ∀ a ∈ as, ∀ b, f a = .ok b → g b = h a)
    (hFirst : as.mapM f = .ok bs) :
    bs.mapM g = as.mapM h := by
  induction as generalizing bs with
  | nil =>
      obtain rfl : [] = bs := Except.ok.inj hFirst
      rfl
  | cons a as ih =>
      rw [List.mapM_cons] at hFirst
      rcases bind_eq_ok_iff.mp hFirst with ⟨b, hb, hTail⟩
      rcases bind_eq_ok_iff.mp hTail with ⟨rest, hRest, hCons⟩
      obtain rfl : b :: rest = bs := Except.ok.inj hCons
      have hLater :
          ∀ x ∈ as, ∀ y, f x = .ok y → g y = h x := by
        intro x hMember
        exact hStep x (List.mem_cons_of_mem a hMember)
      rw [List.mapM_cons, List.mapM_cons,
        hStep a List.mem_cons_self b hb, ih hLater hRest]

------------------------------------------------------------
-- Properties of Answers
------------------------------------------------------------

/- Whether a step answers with nothing but what has a property. -/
def Yields
    (P : α → Prop)
    (x : Except ε α) :
    Prop :=
  ∀ a, x = .ok a → P a

theorem yields_ok
    {P : α → Prop}
    {a : α}
    (hP : P a) :
    Yields P (.ok a : Except ε α) := by
  intro b hAnswer
  obtain rfl := Except.ok.inj hAnswer
  exact hP

theorem yields_error
    {P : α → Prop}
    (f : ε) :
    Yields P (.error f) := by
  intro a hAnswer
  cases hAnswer

/- A later step may use what is known of an earlier answer. -/
theorem Yields.bind
    {P : β → Prop}
    {Q : α → Prop}
    {x : Except ε α}
    {f : α → Except ε β}
    (hFirst : Yields Q x)
    (hNext : ∀ a, Q a → Yields P (f a)) :
    Yields P (x >>= f) := by
  intro b hBoth
  rcases bind_eq_ok_iff.mp hBoth with ⟨a, ha, hb⟩
  exact hNext a (hFirst a ha) b hb

theorem yields_bind
    {P : β → Prop}
    {x : Except ε α}
    {f : α → Except ε β}
    (hNext : ∀ a, Yields P (f a)) :
    Yields P (x >>= f) := by
  have hFirst : Yields (fun _ => True) x := fun _ _ => trivial
  exact hFirst.bind fun a _ => hNext a

section Collected

variable {P : α → Prop}

theorem yields_none :
    Yields (fun a? => ∀ a ∈ a?, P a)
      (.ok none : Except ε (Option α)) :=
  yields_ok fun _ hMember => by cases hMember

theorem yields_some
    {a : α}
    (hP : P a) :
    Yields (fun a? => ∀ a ∈ a?, P a)
      (.ok (some a) : Except ε (Option α)) := by
  refine yields_ok fun b hMember => ?_
  obtain rfl := Option.some.inj hMember
  exact hP

/- An answer as the only one of a list. -/
theorem Yields.singleton
    {x : Except ε α}
    (hAnswer : Yields P x) :
    Yields (fun as => ∀ a ∈ as, P a) (do return [← x]) :=
  hAnswer.bind fun _ hP =>
    yields_ok (List.forall_mem_singleton.mpr hP)

/- An answer as a list that may be empty. -/
theorem Yields.toList
    {x : Except ε (Option α)}
    (hAnswer : Yields (fun a? => ∀ a ∈ a?, P a) x) :
    Yields (fun as => ∀ a ∈ as, P a)
      (do return (← x).toList) :=
  hAnswer.bind fun _ hP =>
    yields_ok fun a hMember => hP a (Option.mem_toList.mp hMember)

end Collected

------------------------------------------------------------
-- Faults
------------------------------------------------------------

/- Whether a step has no faults but those with a property. -/
def FailsOnly
    (P : ε → Prop)
    (x : Except ε α) :
    Prop :=
  ∀ f, x = .error f → P f

section Faults

variable {P Q : ε → Prop}
variable {x : Except ε α}

theorem failsOnly_ok
    (a : α) :
    FailsOnly P (.ok a : Except ε α) := by
  intro f hFault
  cases hFault

theorem failsOnly_error
    {f : ε}
    (hP : P f) :
    FailsOnly P (.error f : Except ε α) := by
  intro g hFault
  obtain rfl := Except.error.inj hFault
  exact hP

theorem FailsOnly.mono
    (hFails : FailsOnly P x)
    (hImplies : ∀ f, P f → Q f) :
    FailsOnly Q x :=
  fun f hFault => hImplies f (hFails f hFault)

theorem FailsOnly.map
    (hFails : FailsOnly P x)
    (g : α → β) :
    FailsOnly P (x.map g) := by
  cases x with
  | ok a => exact failsOnly_ok (g a)
  | error f => exact failsOnly_error (hFails f rfl)

theorem FailsOnly.bind
    {f : α → Except ε β}
    (hFirst : FailsOnly P x)
    (hNext : ∀ a, FailsOnly P (f a)) :
    FailsOnly P (x >>= f) := by
  cases x with
  | ok a => exact hNext a
  | error g => exact failsOnly_error (hFirst g rfl)

/- A sequence has the faults of its first and of its later steps. -/
theorem failsOnly_bind_iff
    {f : α → Except ε β} :
    FailsOnly P (x >>= f) ↔
      FailsOnly P x ∧ ∀ a, x = .ok a → FailsOnly P (f a) := by
  cases x with
  | ok a =>
      constructor
      · intro hNext
        refine ⟨failsOnly_ok a, fun a' hSame => ?_⟩
        obtain rfl : a = a' := Except.ok.inj hSame
        exact hNext
      · rintro ⟨_, hNext⟩
        exact hNext a rfl
  | error g =>
      constructor
      · intro hFirst
        exact ⟨failsOnly_error (hFirst g rfl), nofun⟩
      · rintro ⟨hFirst, _⟩
        exact failsOnly_error (hFirst g rfl)

theorem FailsOnly.mapM
    {f : α → Except ε β}
    {as : List α}
    (hStep : ∀ a ∈ as, FailsOnly P (f a)) :
    FailsOnly P (as.mapM f) := by
  induction as with
  | nil => exact failsOnly_ok []
  | cons a as ih =>
      rcases List.forall_mem_cons.mp hStep with
        ⟨hFirst, hRest⟩
      rw [List.mapM_cons]
      exact hFirst.bind fun b => (ih hRest).bind fun bs =>
        failsOnly_ok (b :: bs)

/- A step that can have no fault answers. -/
theorem FailsOnly.exists_ok
    (hFails : FailsOnly P x)
    (hNone : ∀ f, ¬ P f) :
    ∃ a, x = .ok a := by
  cases x with
  | ok a => exact ⟨a, rfl⟩
  | error f => exact absurd (hFails f rfl) (hNone f)

end Faults

------------------------------------------------------------
-- Equal Faults
------------------------------------------------------------

/- Whether two steps have the same fault, or none. -/
def FailsAlike
    (x y : Except ε α) :
    Prop :=
  ∀ f, x = .error f ↔ y = .error f

theorem failsAlike_ok
    (a b : α) :
    FailsAlike (.ok a : Except ε α) (.ok b) := by
  intro f
  exact iff_of_false nofun nofun

/- Steps that fail alike may be followed by such steps. -/
theorem FailsAlike.bind
    {x y : Except ε α}
    {f g : α → Except ε β}
    (hFirst : FailsAlike x y)
    (hNext : ∀ a b, FailsAlike (f a) (g b)) :
    FailsAlike (x >>= f) (y >>= g) := by
  cases x with
  | error e =>
      obtain rfl := (hFirst e).mp rfl
      exact fun _ => Iff.rfl
  | ok a =>
      cases y with
      | error e => cases (hFirst e).mpr rfl
      | ok b => exact hNext a b

/- One step may be followed by steps that fail alike. -/
theorem failsAlike_bind
    {x : Except ε α}
    {f g : α → Except ε β}
    (hNext : ∀ a, FailsAlike (f a) (g a)) :
    FailsAlike (x >>= f) (x >>= g) := by
  cases x with
  | error e => exact fun _ => Iff.rfl
  | ok a => exact hNext a

end Outcome

end LabelPress

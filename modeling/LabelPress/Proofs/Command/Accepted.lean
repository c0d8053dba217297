import LabelPress.Command.Request
import LabelPress.Proofs.Outcome

/-
  What accepted command lines ask for.

  Whatever the words of a command line are, the size that it sets
  is one of those that have a name, and the resolution is a double
  or the empty list.

  Main declarations:
    * `Settings.IsAccepted`
    * `Use.isAccepted_of_apply`, `isAccepted_of_readWords`
    * `Request.isAccepted_of_ofArguments`
-/

namespace LabelPress

open Outcome

/- Whether settings are some that a command line can lead to. -/
structure Settings.IsAccepted
    (s : Settings) :
    Prop where
  size :
    ∀ c, s.size = some c →
      c ∈ Canvas.commonSizes.map Prod.snd
  resolution :
    ∀ v, s.resolution = some v →
      v = .list [] ∨ ∃ x, v = .double x

namespace Settings

variable {s t : Settings}

theorem isAccepted_default :
    ({} : Settings).IsAccepted where
  size := fun _ hNone => by cases hNone
  resolution := fun _ hNone => by cases hNone

theorem mem_of_choose
    {α : Type}
    {f : Flag}
    {given : Text}
    {choices : List (Text × α)}
    {a : α}
    (hChosen : choose f given choices = .ok a) :
    a ∈ choices.map Prod.snd := by
  unfold choose at hChosen
  split at hChosen
  · rename_i found hFound
    obtain rfl : found = a := Except.ok.inj hChosen
    rcases List.lookup_eq_some_iff.mp hFound with
      ⟨before, after, hChoices, _⟩
    rw [hChoices]
    simp
  · cases hChosen

/- An argument that is the empty list leaves settings accepted. -/
theorem IsAccepted.emptyArgument
    (hAccepted : s.IsAccepted)
    (f : Flag) :
    (s.emptyArgument f).IsAccepted := by
  cases f with
  | size =>
      exact { hAccepted with size := fun _ hNone => by cases hNone }
  | resolution =>
      refine { hAccepted with resolution := fun v hSome => ?_ }
      exact .inl (Option.some.inj hSome).symm
  | _ => exact { hAccepted with }

theorem IsAccepted.setArgument
    (hAccepted : s.IsAccepted)
    {f : Flag}
    {given : Text}
    (hSet : s.setArgument f given = .ok t) :
    t.IsAccepted := by
  cases f with
  | size =>
      rcases bind_eq_ok_iff.mp hSet with ⟨c, hChosen, hMade⟩
      obtain rfl := Except.ok.inj hMade
      refine { hAccepted with size := fun c' hSome => ?_ }
      obtain rfl : c = c' := Option.some.inj hSome
      exact mem_of_choose hChosen
  | resolution =>
      unfold Settings.setArgument at hSet
      dsimp only at hSet
      split at hSet
      · rename_i x _
        obtain rfl := Except.ok.inj hSet
        refine { hAccepted with resolution := fun v hSome => ?_ }
        exact .inr ⟨x, (Option.some.inj hSome).symm⟩
      · cases hSet
  | protocol =>
      rcases bind_eq_ok_iff.mp hSet with ⟨_, _, hMade⟩
      obtain rfl := Except.ok.inj hMade
      exact { hAccepted with }
  | preset =>
      rcases bind_eq_ok_iff.mp hSet with ⟨_, _, hMade⟩
      obtain rfl := Except.ok.inj hMade
      exact { hAccepted with }
  | units =>
      rcases bind_eq_ok_iff.mp hSet with ⟨_, _, hMade⟩
      obtain rfl := Except.ok.inj hMade
      exact { hAccepted with }
  | _ =>
      obtain rfl := Except.ok.inj hSet
      exact { hAccepted with }

theorem IsAccepted.setSwitch
    (hAccepted : s.IsAccepted)
    {f : Flag}
    (hSet : s.setSwitch f = .ok t) :
    t.IsAccepted := by
  cases f with
  | help => cases hSet
  | _ =>
      obtain rfl := Except.ok.inj hSet
      exact { hAccepted with }

end Settings

/- The use of a flag leaves settings accepted. -/
theorem Use.isAccepted_of_apply
    [Machine]
    {s t : Settings}
    {u : Use}
    (hAccepted : s.IsAccepted)
    (hApplied : u.apply s = .ok t) :
    t.IsAccepted := by
  cases u with
  | switch f => exact hAccepted.setSwitch hApplied
  | argument f given =>
      unfold apply at hApplied
      dsimp only at hApplied
      split_ifs at hApplied with hMark
      · obtain rfl := Except.ok.inj hApplied
        exact hAccepted.emptyArgument f
      · exact hAccepted.setArgument hApplied

theorem Progress.isAccepted_of_takeUses
    [Machine]
    {p q : Progress}
    {uses : List Use}
    (hAccepted : p.settings.IsAccepted)
    (hTaken : p.takeUses uses = .ok q) :
    q.settings.IsAccepted := by
  rcases bind_eq_ok_iff.mp hTaken with ⟨t, hUses, hMade⟩
  obtain rfl := Except.ok.inj hMade
  exact foldlM_preserves
    (fun _ _ _ hs hApplied => Use.isAccepted_of_apply hs hApplied)
    hAccepted hUses

theorem Progress.settings_takePlain
    (p : Progress)
    (word : Text) :
    (p.takePlain word).settings = p.settings := by
  unfold takePlain
  cases p.document with
  | _ => rfl

/- Whatever words are read, the settings stay accepted. -/
theorem isAccepted_of_readWords
    [Machine]
    {p q : Progress}
    {words : List Word}
    (hAccepted : p.settings.IsAccepted)
    (hRead : readWords p words = .ok q) :
    q.settings.IsAccepted := by
  fun_induction readWords p words with
  | case1 p =>
      obtain rfl : p = q := Except.ok.inj hRead
      exact hAccepted
  | case2 p s rest hNone ih =>
      rw [Progress.settings_takePlain] at ih
      exact ih hAccepted hRead
  | case3 p s rest hOther ih =>
      rw [Progress.settings_takePlain] at ih
      exact ih hAccepted hRead
  | case4 p s rest hNone ih =>
      rw [Progress.settings_takePlain] at ih
      exact ih hAccepted hRead
  | case5 p rest hOther ih => exact ih hAccepted hRead
  | case6 p s rest ih => exact ih hAccepted hRead
  | case7 p f attached rest r hRefused => cases hRead
  | case8 p f attached g hGroup rest hWaiting ih =>
      rcases bind_eq_ok_iff.mp hRead with
        ⟨next, hTaken, hRest⟩
      refine ih next ?_ hRest
      have hSettings :
          (g.leftOver.elim next next.leave).settings =
            next.settings := by
        cases g.leftOver with
        | _ => rfl
      rw [hSettings]
      exact Progress.isAccepted_of_takeUses hAccepted hTaken
  | case9 p f attached g hGroup f' s rest hWaiting ih =>
      rcases bind_eq_ok_iff.mp hRead with
        ⟨next, hTaken, hRest⟩
      exact ih next
        (Progress.isAccepted_of_takeUses hAccepted hTaken) hRest
  | case10 p f attached rest g hGroup f' hWaiting hOther =>
      cases hRead

/- A request is one that the settings of a command line make. -/
theorem Request.isAccepted_of_ofArguments
    [Machine]
    {arguments : List Text}
    {r : Request}
    (hRequest : ofArguments arguments = .request r) :
    r.toSettings.IsAccepted := by
  unfold ofArguments at hRequest
  split at hRequest
  · cases hRequest
  · unfold ofWords at hRequest
    split at hRequest
    · cases hRequest
    · cases hRequest
    · rename_i p hRead
      split at hRequest
      · cases hRequest
      · obtain rfl := Invocation.request.inj hRequest
        exact isAccepted_of_readWords
          Settings.isAccepted_default hRead
      · cases hRequest

end LabelPress

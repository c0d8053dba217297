import LabelPress.Command.Run
import LabelPress.Proofs.Outcome
import Mathlib.Data.List.TakeWhile

/-
  What the output can hold.

  A text is printed when the output can hold each of its
  characters, and otherwise nothing of it is.  Names are printed
  one after another, so that those before one that cannot be
  printed are shown all the same.

  Main declarations:
    * `Fault.IsOfPrinting`
    * `Request.checkPrintable_eq_ok_iff`
    * `Request.checkListing_eq_ok_iff`
    * `Request.result_list_eq_ok_iff`
-/

namespace LabelPress

open Outcome

/- Whether a fault is a character that the output cannot hold. -/
def Fault.IsOfPrinting
    (f : Fault) :
    Prop :=
  ∃ c position, f = .notPrintable c position

namespace Request

variable [Machine]

------------------------------------------------------------
-- Texts
------------------------------------------------------------

section Texts

variable {t : Text}

/- The output can hold a text if it can hold each character. -/
theorem checkPrintable_eq_ok_iff :
    checkPrintable t = .ok () ↔ canPrint t := by
  rw [checkPrintable, canPrint, List.all_eq_true,
    ← List.dropWhile_eq_nil_iff]
  cases t.dropWhile Machine.prints with
  | nil => simp
  | cons c rest => simp

theorem checkPrintable_failsOnly
    (t : Text) :
    FailsOnly Fault.IsOfPrinting (checkPrintable t) := by
  unfold checkPrintable
  split
  · exact failsOnly_ok ()
  · exact failsOnly_error ⟨_, _, rfl⟩

end Texts

------------------------------------------------------------
-- Names
------------------------------------------------------------

section Names

variable {names : List Text}
variable {files : Files}
variable {document : Document}

/- Names can be listed if the output can hold each of them. -/
theorem checkListing_eq_ok_iff :
    checkListing names = .ok () ↔
      ∀ name ∈ names, canPrint name := by
  induction names with
  | nil => simp [checkListing]
  | cons name rest ih =>
      rw [List.forall_mem_cons, ← checkPrintable_eq_ok_iff, ← ih,
        checkListing]
      cases checkPrintable name with
      | error f => simp
      | ok _ => simp

theorem checkListing_failsOnly
    (names : List Text) :
    FailsOnly Fault.IsOfPrinting (checkListing names) := by
  induction names with
  | nil => exact failsOnly_ok ()
  | cons name rest ih =>
      exact (checkPrintable_failsOnly name).bind fun _ => ih

theorem result_list
    (files : Files)
    (hNames : (namesIn document).result = .ok names) :
    (list files document).result =
      checkListing names >>= fun _ =>
        .ok (.printed files (lines names)) := by
  simp only [list, result_bind, hNames, ok_bind, result_liftM,
    result_pure]

/- The names of a document are listed if the output can hold them. -/
theorem result_list_eq_ok_iff
    (hNames : (namesIn document).result = .ok names) :
    (list files document).result =
        .ok (.printed files (lines names)) ↔
      ∀ name ∈ names, canPrint name := by
  rw [← checkListing_eq_ok_iff, result_list files hNames]
  cases checkListing names with
  | error f => simp
  | ok _ => simp

end Names

end Request

end LabelPress

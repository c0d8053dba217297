import LabelPress.Value.Basic

/-
  Records with other values in their place.

  Where a record belongs, some other value may have been stored.
  Such a value is kept, and only reading a part of the record
  from it fails.

  Key definitions include:
    * `Stored`
    * `Stored.get`
-/

namespace LabelPress

/- A record, or a value that stands in its place. -/
inductive Stored (α : Type) where
  | record (r : α)
  | foreign (v : Value)

namespace Stored

variable {α : Type}

/- The record, without which no part of it can be read. -/
def get
    (stored : Stored α) :
    Except Fault α :=
  match stored with
  | .record r => .ok r
  | .foreign _ => .error .missingPart

/- Change the record, if there is one. -/
def map
    (f : α → α)
    (stored : Stored α) :
    Stored α :=
  match stored with
  | .record r => .record (f r)
  | .foreign v => .foreign v

end Stored

end LabelPress

import LabelPress.Text.Basic

/-
  The families of formats that bound values take.

  Key definitions include:
    * `Family`
    * `Family.name`
-/

namespace LabelPress

/- A family of formats. -/
inductive Family where
  | date
  | number
  | boolean
  | string
  deriving DecidableEq

namespace Family

/- The name of a family. -/
def name :
    Family → Text
  | date => "date"
  | number => "number"
  | boolean => "boolean"
  | string => "string"

/- The name of a family as one of a closed set. -/
def symbol :
    Family → Text
  | date => "DATE"
  | number => "NUMBER"
  | boolean => "BOOLEAN"
  | string => "STRING"

/- All families. -/
def all :
    List Family :=
  [date, number, boolean, string]

/- The family of a name. -/
def ofName?
    (s : Text) :
    Option Family :=
  all.find? fun f => f.name == s

end Family

end LabelPress

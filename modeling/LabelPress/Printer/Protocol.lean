import LabelPress.Text.Blank
import LabelPress.Text.Case

/-
  The printer languages.

  Key definitions include:
    * `Protocol`
    * `Protocol.ofText?`
    * `Protocol.names`
-/

namespace LabelPress

/- A printer language. -/
inductive Protocol where
  | zpl
  | epl
  | dpl
  deriving DecidableEq

namespace Protocol

/- The name of a language. -/
def name :
    Protocol → Text
  | zpl => "ZPL"
  | epl => "EPL"
  | dpl => "DPL"

/- All languages, by the order of their names. -/
def all :
    List Protocol :=
  [dpl, epl, zpl]

/- The names in order. -/
def names :
    List Text :=
  all.map name

/- A name in capitals, blanks around it dropped. -/
def normalName
    (s : Text) :
    Text :=
  Text.upper (Text.trim s)

/- The language that a text names. -/
def ofText?
    (s : Text) :
    Option Protocol :=
  all.find? fun p => p.name == normalName s

end Protocol

end LabelPress

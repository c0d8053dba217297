import LabelPress.Text.Case

/-
  The normal form of property keys.

  Keys may be spelled with capitals or with underscores.  An
  underscore goes before each capital letter that follows a small
  letter or a digit, and the key is put into small letters.

  Key definitions include:
    * `PropertyKey.separated`
    * `PropertyKey.normalForm`
-/

namespace LabelPress

namespace PropertyKey

/- An ASCII capital letter. -/
def isCapital
    (c : CodePoint) :
    Bool :=
  'A' ≤ c && c ≤ 'Z'

/- An ASCII small letter or digit. -/
def endsPart
    (c : CodePoint) :
    Bool :=
  ('a' ≤ c && c ≤ 'z') || ('0' ≤ c && c ≤ '9')

/-
  Set underscores between the parts of a key; `afterPart` tells
  whether the last character may end a part.
-/
def separatedFrom
    (afterPart : Bool) :
    Text → Text
  | [] => []
  | c :: cs =>
      if afterPart && isCapital c then
        '_' :: c :: separatedFrom (endsPart c) cs
      else c :: separatedFrom (endsPart c) cs

/- Set underscores between the parts of a key. -/
def separated
    (cs : Text) :
    Text :=
  separatedFrom false cs

/- The normal form of a key. -/
def normalForm
    (key : Text) :
    Text :=
  Text.lower (separated key)

end PropertyKey

end LabelPress

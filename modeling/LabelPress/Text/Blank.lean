import LabelPress.Text.Basic
import LabelPress.Text.Ranges

/-
  White space and blank characters.

  White space is the property of that name in Unicode 14.  The
  blank characters are white space and the four information
  separators U+001C to U+001F.

  Key definitions include:
    * `Text.isWhiteSpace`
    * `Text.isBlank`
    * `Text.trim`, blanks dropped at both ends
-/

namespace LabelPress

namespace Text

/- The code points of white space. -/
def whiteSpaceRanges :
    List (Nat × Nat) :=
  [
    (0x9, 0xD), (0x20, 0x20), (0x85, 0x85), (0xA0, 0xA0),
    (0x1680, 0x1680), (0x2000, 0x200A), (0x2028, 0x2029), (0x202F, 0x202F),
    (0x205F, 0x205F), (0x3000, 0x3000)]

/- Whether a character is white space. -/
def isWhiteSpace
    (c : CodePoint) :
    Bool :=
  inRanges whiteSpaceRanges c.toNat

/- Whether a character is an information separator. -/
def isSeparator
    (c : CodePoint) :
    Bool :=
  0x1C ≤ c.toNat && c.toNat ≤ 0x1F

/- Whether a character is blank. -/
def isBlank
    (c : CodePoint) :
    Bool :=
  isWhiteSpace c || isSeparator c

/- Drop the characters of a class at both ends. -/
def trimBy
    (drop : CodePoint → Bool)
    (cs : Text) :
    Text :=
  ((cs.dropWhile drop).reverse.dropWhile drop).reverse

/- Drop blanks at both ends. -/
def trim
    (t : Text) :
    Text :=
  trimBy isBlank t

end Text

end LabelPress

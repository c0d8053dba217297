import LabelPress.Text.Blank
import LabelPress.Text.Case
import LabelPress.Text.DecimalDigit
import LabelPress.Text.Word

/-
  Sets of characters in patterns.

  A set is made of ranges and of named classes, and may stand for
  all other characters.  A set that leaves case aside holds a
  character when one of its ranges does so in some case.

  Key definitions include:
    * `CharClass`
    * `SetItem`
    * `CaseRule`
    * `CharSet`, with `CharSet.holds`
-/

namespace LabelPress

------------------------------------------------------------
-- Classes
------------------------------------------------------------

/- A named class of characters. -/
inductive CharClass where
  | digit
  | word
  | blank
  deriving DecidableEq

/- Whether a character is in a class, of all scripts or ASCII. -/
def CharClass.holds
    (ascii : Bool)
    (c : CodePoint)
    (k : CharClass) :
    Bool :=
  let found :=
    match k with
    | digit => Text.isDecimalDigit c
    | word => Text.isWord c
    | blank => Text.isBlank c
  if ascii then
    found && c.toNat < 128 && !(k == .blank && Text.isSeparator c)
  else found

------------------------------------------------------------
-- Sets
------------------------------------------------------------

/- A part of a character set. -/
inductive SetItem where
  | single (c : CodePoint)
  | range (first : CodePoint) (last : CodePoint)
  | ofClass (k : CharClass) (negated : Bool) (ascii : Bool)
  deriving DecidableEq

/- Whether a character is in a part of a set. -/
def SetItem.holds
    (c : CodePoint) :
    SetItem → Bool
  | single d => d == c
  | range first last => first ≤ c && c ≤ last
  | ofClass k negated ascii => k.holds ascii c != negated

/- Which characters count as the same. -/
inductive CaseRule where
  | exact
  | asciiCaseless
  | caseless
  deriving DecidableEq

namespace CaseRule

/- The small form of a character, where case is left aside. -/
def small :
    CaseRule → CodePoint → CodePoint
  | exact, c => c
  | asciiCaseless, c => c.toLower
  | caseless, c => Text.smallChar c

/- The characters that count as a given one. -/
def forms :
    CaseRule → CodePoint → Text
  | exact, c => [c]
  | asciiCaseless, c => [c.toLower, c.toUpper]
  | caseless, c => Text.caseForms c

/- Whether a rule knows another form of a character. -/
def isCased :
    CaseRule → CodePoint → Bool
  | exact, _ => false
  | asciiCaseless, c => c.toLower != c || c.toUpper != c
  | caseless, c => Text.smallChar c != c || Text.capitalChar c != c

end CaseRule

/- A set of characters, or all others. -/
structure CharSet where
  negated : Bool
  parts : List SetItem
  rule : CaseRule := .exact
  deriving DecidableEq

/- Whether a character is in the basic plane. -/
def isBasic
    (c : CodePoint) :
    Bool :=
  c.toNat < 0x10000

/-
  Whether a character is in a part of a set under a rule.  Beyond
  the basic plane a single member is compared with the small form
  alone, and a range with the small form and its capital.
-/
def SetItem.meets
    (rule : CaseRule)
    (c : CodePoint)
    (item : SetItem) :
    Bool :=
  let small := rule.small c
  match item with
  | single d =>
      if isBasic d then (rule.forms c).contains d else item.holds small
  | range _ last =>
      ((rule.forms c).any fun d => isBasic d && item.holds d) ||
        (!isBasic last &&
          (item.holds small || item.holds (Text.capitalChar small)))
  | ofClass .. => item.holds small

/- Whether a character is in one of the parts of a set. -/
def CharSet.meets
    (s : CharSet)
    (c : CodePoint) :
    Bool :=
  match s.rule, s.parts with
  | .exact, parts => parts.any (SetItem.holds c)
  | rule, [.single d] => (rule.forms c).contains d
  | rule, parts => parts.any (SetItem.meets rule c)

/- Whether a character is in a set. -/
def CharSet.holds
    (s : CharSet)
    (c : CodePoint) :
    Bool :=
  s.meets c != s.negated

end LabelPress

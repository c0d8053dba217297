import LabelPress.Double.Decimal
import LabelPress.Text.Blank
import LabelPress.Text.DecimalDigit

/-
  Numbers read from text.

  White space around a numeral is dropped, digits of every script
  count, and single underscores may stand between digits.  An
  integer is a sign and digits, at most 4300 of them.  A double
  is a sign and digits with an optional point and exponent, or
  one of the words for infinity and for the undefined number.

  Key definitions include:
    * `Text.integer?`
    * `Text.double?`
-/

namespace LabelPress

namespace Text

------------------------------------------------------------
-- Characters of a Numeral
------------------------------------------------------------

/- Write a digit of any script as an ASCII digit. -/
def asciiDigit
    (c : CodePoint) :
    CodePoint :=
  match digitValue? c with
  | some n => CodePoint.ofNat ('0'.toNat + n)
  | none => c

/- The trimmed text with ASCII digits. -/
def numeralChars
    (s : Text) :
    Text :=
  (trimBy isWhiteSpace s).map asciiDigit

/-
  Drop underscores.  Each must stand between two digits;
  `afterDigit` tells whether the last character was one.
-/
def dropUnderscores
    (afterDigit : Bool) :
    Text → Option Text
  | [] => some []
  | .char '_' :: c :: cs =>
      if afterDigit && isAsciiDigit c then
        (dropUnderscores true cs).map (c :: ·)
      else none
  | [.char '_'] => none
  | c :: cs => (dropUnderscores (isAsciiDigit c) cs).map (c :: ·)

/- The natural that ASCII digits denote. -/
def naturalOf
    (cs : Text) :
    Nat :=
  cs.foldl (fun n c => 10 * n + asciiDigitValue c) 0

/- A leading sign, and the rest. -/
def splitSign :
    Text → Bool × Text
  | .char '-' :: cs => (true, cs)
  | .char '+' :: cs => (false, cs)
  | cs => (false, cs)

/- The longest run of ASCII digits at the start, and the rest. -/
def splitDigits
    (cs : Text) :
    Text × Text :=
  (cs.takeWhile isAsciiDigit, cs.dropWhile isAsciiDigit)

------------------------------------------------------------
-- Integers
------------------------------------------------------------

/- The most digits that an integer may be written with. -/
def maxIntegerDigits :
    Nat :=
  4300

/- The integer that a text denotes. -/
def integer?
    (s : Text) :
    Option Int := do
  let (negative, digits) := splitSign (numeralChars s)
  let digits ← dropUnderscores false digits
  if digits = [] ∨ ¬ digits.all isAsciiDigit then none
  else if maxIntegerDigits < digits.length then none
  else some (Double.signed negative (naturalOf digits))

------------------------------------------------------------
-- Doubles
------------------------------------------------------------

/- An exponent part: absent, or a mark, a sign and digits. -/
def exponentPart? :
    Text → Option Int
  | [] => some 0
  | mark :: cs =>
      if mark = 'e' ∨ mark = 'E' then
        let (negative, digits) := splitSign cs
        if digits = [] ∨ ¬ digits.all isAsciiDigit then none
        else some (Double.signed negative (naturalOf digits))
      else none

/- Digits with an optional point and exponent. -/
def decimal?
    (cs : Text) :
    Option Decimal := do
  let (whole, rest) := splitDigits cs
  let (fraction, rest) :=
    match rest with
    | .char '.' :: rest => splitDigits rest
    | _ => ([], rest)
  if whole ++ fraction = [] then none
  else
    let e ← exponentPart? rest
    some ⟨naturalOf (whole ++ fraction), e - fraction.length⟩

/- The words for numbers that no digits denote. -/
def specialDouble?
    (negative : Bool)
    (word : Text) :
    Option Double :=
  let word := word.map CodePoint.toLower
  if word = "inf" ∨ word = "infinity" then
    some (.infinite negative)
  else if word = "nan" then some .nan
  else none

/- The double that a text denotes. -/
def double?
    (s : Text) :
    Option Double := do
  let cs ← dropUnderscores false (numeralChars s)
  let (negative, body) := splitSign cs
  match specialDouble? negative body with
  | some x => some x
  | none => (decimal? body).map (Double.ofDecimal negative)

end Text

end LabelPress

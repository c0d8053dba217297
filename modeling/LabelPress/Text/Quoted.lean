import LabelPress.Text.Printable

/-
  Quoted text for messages.

  Text is quoted by single quotes unless it holds one and no
  double quote.  The backslash and the chosen quote are escaped;
  tab, line feed and carriage return have letters; any other
  character that does not print is written by its number.

  Key definitions include:
    * `Text.quoted`
-/

namespace LabelPress

namespace Text

/- The single quote. -/
def singleQuote :
    CodePoint :=
  CodePoint.ofNat 39

/- The double quote. -/
def doubleQuote :
    CodePoint :=
  CodePoint.ofNat 34

/- The backslash. -/
def backslash :
    CodePoint :=
  CodePoint.ofNat 92

/- A number in lower-case hexadecimal, zeros in front. -/
def hexDigits
    (width : Nat)
    (n : Nat) :
    Text :=
  let ds := digits 16 n
  run '0' (width - ds.length) ++ ds

/- A code point by its number, in the shortest of three forms. -/
def numbered
    (n : Nat) :
    Text :=
  if n < 0x100 then backslash :: 'x' :: hexDigits 2 n
  else if n < 0x10000 then backslash :: 'u' :: hexDigits 4 n
  else backslash :: 'U' :: hexDigits 8 n

/- The written form of one character. -/
def escaped
    (quote : CodePoint)
    (c : CodePoint) :
    Text :=
  if c = quote ∨ c = backslash then [backslash, c]
  else if c = '\t' then [backslash, 't']
  else if c = '\n' then [backslash, 'n']
  else if c = '\r' then [backslash, 'r']
  else if isPrintable c then [c]
  else numbered c.toNat

/- The quote that a text is written in. -/
def quoteFor
    (cs : Text) :
    CodePoint :=
  if cs.contains singleQuote && !cs.contains doubleQuote then doubleQuote
  else singleQuote

/- Quoted text. -/
def quoted
    (s : Text) :
    Text :=
  let quote := quoteFor s
  quote :: s.flatMap (escaped quote) ++ [quote]

end Text

end LabelPress

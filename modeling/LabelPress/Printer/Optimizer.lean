import LabelPress.Printer.Protocol
import LabelPress.Text.DecimalDigit

/-
  Shorter command streams.

  A field origin that is repeated on the next line is written
  once.  In ZPL, a newline between the end of a field and the
  origin of a text field is dropped.

  Key definitions include:
    * `Optimizer.origin?`
    * `Optimizer.collapse`
    * `Optimizer.joinFields`
    * `optimizeCode`
-/

namespace LabelPress

namespace Optimizer

------------------------------------------------------------
-- Origins
------------------------------------------------------------

/- A run of digits that is not empty, and the rest. -/
def digits?
    (cs : Text) :
    Option (Text × Text) :=
  match cs.takeWhile Text.isDecimalDigit with
  | [] => none
  | ds => some (ds, cs.dropWhile Text.isDecimalDigit)

/- A field origin at the start, and the rest. -/
def origin? :
    Text → Option (Text × Text)
  | .char '^' :: .char 'F' :: .char 'O' :: cs => do
      let (x, rest) ← digits? cs
      match rest with
      | .char ',' :: rest => do
          let (y, rest) ← digits? rest
          some ("^FO" ++ x ++ "," ++ y, rest)
      | _ => none
  | _ => none

/- An origin at the start that the next line repeats. -/
def repeatedOrigin?
    (cs : Text) :
    Option Text :=
  match origin? cs with
  | some (o, .char '\n' :: rest) => if o.isPrefixOf rest then some o else none
  | _ => none

------------------------------------------------------------
-- Shortening
------------------------------------------------------------

/-
  Write repeated origins once, from left to right.  `skip` counts
  the characters that a collapsed pair has used up.
-/
def collapse :
    Nat → Text → Text
  | _, [] => []
  | skip + 1, _ :: cs => collapse skip cs
  | 0, c :: cs =>
      match repeatedOrigin? (c :: cs) with
      | some o => o ++ collapse (2 * o.length) cs
      | none => c :: collapse 0 cs

/- Whether the origin of a text field comes next. -/
def startsTextField
    (cs : Text) :
    Bool :=
  match origin? cs with
  | some (_, .char '^' :: .char 'A' :: _) => true
  | _ => false

/- Drop newlines between the end of a field and a text field. -/
def joinFields :
    Text → Text
  | .char '^' :: .char 'F' :: .char 'S' :: .char '\n' :: cs =>
      if startsTextField cs then "^FS" ++ joinFields cs
      else "^FS\n" ++ joinFields cs
  | c :: cs => c :: joinFields cs
  | [] => []

/- Shorten a stream, as ZPL or as another language. -/
def shorten
    (isZpl : Bool)
    (cs : Text) :
    Text :=
  let cs := collapse 0 cs
  if isZpl then joinFields cs else cs

end Optimizer

/- A shorter stream of a language. -/
def optimizeCode
    (code : Text)
    (protocol : Text) :
    Text :=
  let isZpl := Protocol.normalName protocol == Protocol.zpl.name
  Optimizer.shorten isZpl code

end LabelPress

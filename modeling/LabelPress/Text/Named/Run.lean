import LabelPress.Text.Basic

/-
  Names of neighbouring characters.

  The names of a run are written one after another, broken into
  lines.  In front of each a small letter tells how many words it
  begins with that the name before has too: none for `a`, one for
  `b`, and so on.

  Key definitions include:
    * `Text.NameRun`
    * `Text.NameRun.find?`
-/

namespace LabelPress

namespace Text

/- The names of characters from a first one on. -/
structure NameRun where
  first : Nat
  names : List String

namespace NameRun

/- The parts of a run: a number of shared words, and the others. -/
def parts
    (r : NameRun) :
    List (Nat × Text) :=
  let cut := (r.names.flatMap String.toList).foldr
    (fun c (name, done) =>
      if c.isLower then ([], (c.toNat - 'a'.toNat, name) :: done)
      else (CodePoint.char c :: name, done))
    (([] : Text), ([] : List (Nat × Text)))
  cut.2

/- The place of a name in words among parts, the first at `n`. -/
def findFrom
    (wanted : List Text)
    (n : Nat)
    (before : List Text) :
    List (Nat × Text) → Option Nat
  | [] => none
  | (shared, rest) :: more =>
      let name := before.take shared ++ partsBetween ' ' rest
      if name = wanted then some n else findFrom wanted (n + 1) name more

/- The number of the character that has a name in words. -/
def find?
    (r : NameRun)
    (wanted : List Text) :
    Option Nat :=
  findFrom wanted r.first [] r.parts

end NameRun

end Text

end LabelPress

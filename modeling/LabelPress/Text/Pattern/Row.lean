import LabelPress.Text.Pattern.Basic

/-
  Rows of parts, and what becomes of several of them.

  A group that has neither a number nor flags of its own only
  holds parts together, and they join the row around it.  Of
  alternative rows, the plain parts that all begin with are taken
  out in front; if each row is then one member of a set, they are
  one set, and else they stay alternatives.

  Key definitions include:
    * `PatternPart`
    * `Pattern.sharedStart`
    * `Pattern.ofRows`
-/

namespace LabelPress

------------------------------------------------------------
-- Parts
------------------------------------------------------------

/- A part of a row: a pattern, or parts that are held together. -/
inductive PatternPart where
  | piece (p : Pattern)
  | loose (ps : List Pattern)

namespace PatternPart

/- The patterns that a part puts into its row. -/
def patterns :
    PatternPart → List Pattern
  | piece p => [p]
  | loose ps => ps

/- A part as one pattern. -/
def whole :
    PatternPart → Pattern
  | piece p => p
  | loose ps => .ofParts ps

/- Whether a part may be repeated. -/
def isRepeatable :
    PatternPart → Bool
  | loose _ => true
  | piece .start => false
  | piece .lineStart => false
  | piece .finish => false
  | piece .lineEnd => false
  | piece .anyLineEnd => false
  | piece (.boundary ..) => false
  | piece (.repeated ..) => false
  | piece _ => true

end PatternPart

------------------------------------------------------------
-- Alternatives
------------------------------------------------------------

namespace Pattern

/- Whether a pattern has no other one in it. -/
def isPlain :
    Pattern → Bool
  | fail => true
  | one _ => true
  | start => true
  | lineStart => true
  | finish => true
  | lineEnd => true
  | anyLineEnd => true
  | boundary .. => true
  | reference .. => true
  | _ => false

/-
  The plain patterns that a row and others begin with, and what
  is left of the rows.
-/
def sharedStart
    (row : List Pattern)
    (others : List (List Pattern)) :
    List Pattern × List (List Pattern) :=
  match row with
  | [] => ([], [] :: others)
  | p :: ps =>
      if p.isPlain && others.all fun r => r.head? == some p then
        let (shared, rest) := sharedStart ps (others.map List.tail)
        (p :: shared, rest)
      else ([], (p :: ps) :: others)

/- The set of a row that is one member of it or several. -/
def memberSet? :
    List Pattern → Option CharSet
  | [one s] => if s.negated then none else some s
  | _ => none

/- The set of all members of some sets, which share their rule. -/
def unionSet? :
    List CharSet → Option CharSet
  | [] => none
  | s :: ss =>
      some { s with parts := ((s :: ss).flatMap CharSet.parts).eraseDups }

/- Alternative rows as one. -/
def ofRows :
    List (List Pattern) → List Pattern
  | [] => []
  | [row] => row
  | row :: others =>
      let (shared, rest) := sharedStart row others
      let choice :=
        match (rest.mapM memberSet?).bind unionSet? with
        | some s => one s
        | none => ofAlternatives (rest.map ofParts)
      shared ++ [choice]

end Pattern

end LabelPress

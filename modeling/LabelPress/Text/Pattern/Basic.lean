import LabelPress.Text.Pattern.CharSet

/-
  Patterns of text and the widths of their matches.

  Key definitions include:
    * `Pattern`
    * `Pattern.ofParts`, parts one after another
    * `Pattern.unit?`, the set of a pattern of one character
    * `Pattern.width`
-/

namespace LabelPress

------------------------------------------------------------
-- Patterns
------------------------------------------------------------

/- How often a repetition tries to go on. -/
inductive Greed where
  | greedy
  | lazy
  | possessive
  deriving DecidableEq

/- The least and the greatest number of characters of a match. -/
structure Width where
  least : Nat
  most : Option Nat
  deriving DecidableEq

/- A pattern of text. -/
inductive Pattern where
  | empty
  | fail
  | one (s : CharSet)
  | start
  | lineStart
  | finish
  | lineEnd
  | anyLineEnd
  | boundary (negated : Bool) (ascii : Bool)
  | append (p : Pattern) (q : Pattern)
  | either (p : Pattern) (q : Pattern)
  | group (p : Pattern)
  | capture (number : Nat) (p : Pattern)
  | reference (number : Nat) (width : Width) (rule : CaseRule)
  | conditional (number : Nat) (p : Pattern) (q : Pattern)
  | repeated
      (p : Pattern)
      (least : Nat)
      (most : Option Nat)
      (greed : Greed)
  | atomic (p : Pattern)
  | ahead (p : Pattern) (negated : Bool)
  | behind (p : Pattern) (negated : Bool)
  deriving DecidableEq

namespace Pattern

/- Parts one after another. -/
def ofParts :
    List Pattern → Pattern
  | [] => empty
  | [p] => p
  | p :: ps => append p (ofParts ps)

/- A pattern whose own alternatives are not those around it. -/
def apart :
    Pattern → Pattern
  | either p q => group (either p q)
  | p => p

/- Alternatives, the first of which is preferred. -/
def ofAlternatives :
    List Pattern → Pattern
  | [] => fail
  | [p] => p.apart
  | p :: ps => either p (ofAlternatives ps)

/- The alternatives of a pattern. -/
def choices :
    Pattern → List Pattern
  | either p q => p :: q.choices
  | p => [p]

/- Whether a pattern repeats something. -/
def hasRepetition :
    Pattern → Bool
  | append p q => p.hasRepetition || q.hasRepetition
  | either p q => p.hasRepetition || q.hasRepetition
  | group p => p.hasRepetition
  | capture _ p => p.hasRepetition
  | conditional _ p q => p.hasRepetition || q.hasRepetition
  | repeated .. => true
  | atomic p => p.hasRepetition
  | ahead p _ => p.hasRepetition
  | behind p _ => p.hasRepetition
  | _ => false

/- The set of a pattern that matches one character. -/
def unit? :
    Pattern → Option CharSet
  | one s => some s
  | group p => p.unit?
  | _ => none

end Pattern

------------------------------------------------------------
-- Widths
------------------------------------------------------------

/- The least count that is too large for a repetition. -/
def Pattern.countLimit :
    Nat :=
  4294967295

namespace Width

/- The width of a number of characters. -/
def exactly
    (n : Nat) :
    Width :=
  ⟨n, some n⟩

/- The width of one match after another. -/
def add
    (v : Width)
    (w : Width) :
    Width :=
  ⟨v.least + w.least, do some ((← v.most) + (← w.most))⟩

/- The width of one of two matches. -/
def or
    (v : Width)
    (w : Width) :
    Width :=
  ⟨min v.least w.least, do some (max (← v.most) (← w.most))⟩

/- The width of some matches one after another. -/
def times
    (w : Width)
    (least : Nat)
    (most : Option Nat) :
    Width :=
  let greatest :=
    match w.most, most with
    | some 0, _ => some 0
    | _, some 0 => some 0
    | some n, some m => some (n * m)
    | _, _ => none
  ⟨w.least * least, greatest⟩

/- The only width, if there is just one and it is not too large. -/
def only?
    (w : Width) :
    Option Nat :=
  if w.most = some w.least ∧ w.least ≤ Pattern.countLimit then some w.least
  else none

end Width

namespace Pattern

/- The width of the matches of a pattern. -/
def width :
    Pattern → Width
  | one _ => .exactly 1
  | append p q => p.width.add q.width
  | either p q => p.width.or q.width
  | group p => p.width
  | capture _ p => p.width
  | reference _ w _ => w
  | conditional _ p q => p.width.or q.width
  | repeated p least most _ => p.width.times least most
  | atomic p => p.width
  | _ => .exactly 0

/- Whether all that must lie behind a place has a single width. -/
def looksBackFixed :
    Pattern → Bool
  | append p q => p.looksBackFixed && q.looksBackFixed
  | either p q => p.looksBackFixed && q.looksBackFixed
  | group p => p.looksBackFixed
  | capture _ p => p.looksBackFixed
  | conditional _ p q => p.looksBackFixed && q.looksBackFixed
  | repeated p _ _ _ => p.looksBackFixed
  | atomic p => p.looksBackFixed
  | ahead p _ => p.looksBackFixed
  | behind p _ => p.looksBackFixed && p.width.only?.isSome
  | _ => true

end Pattern

end LabelPress

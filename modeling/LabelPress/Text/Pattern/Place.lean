import LabelPress.Text.Pattern.CharSet

/-
  Places in a text, with the marks that groups have left.

  A group marks where it begins and where it ends.  The marks
  count up to the last one set; those between that were never
  set are missing.  A group has a match when both of its marks
  are there and the end is not before the beginning.

  Key definitions include:
    * `Pattern.Marks`
    * `Pattern.Place`
    * `Pattern.Place.groupText?`
-/

namespace LabelPress

namespace Pattern

------------------------------------------------------------
-- Marks
------------------------------------------------------------

/- A mark: how many characters are before it, and those after it. -/
structure Mark where
  position : Nat
  rest : Text

/- Marks by their numbers, up to the last one set. -/
abbrev Marks :=
  List (Option Mark)

namespace Marks

/- Set a mark; those missing before it are there without a place. -/
def put
    (marks : Marks)
    (number : Nat)
    (m : Mark) :
    Marks :=
  if number < marks.length then marks.set number (some m)
  else marks ++ List.replicate (number - marks.length) none ++ [some m]

/-
  The marks to go on with after a failure.  Within a repetition
  they are as before; elsewhere those that are left are only as
  many as before.
-/
def afterFailure
    (inLoop : Bool)
    (before : Marks)
    (after : Marks) :
    Marks :=
  if inLoop then before else after.take before.length

/- The mark at the beginning of a group. -/
def opening
    (group : Nat) :
    Nat :=
  2 * (group - 1)

/- The mark at the end of a group. -/
def closing
    (group : Nat) :
    Nat :=
  opening group + 1

/- The text between the two marks of a group. -/
def groupText?
    (marks : Marks)
    (group : Nat) :
    Option Text :=
  match marks[opening group]?, marks[closing group]? with
  | some (some p), some (some q) =>
      if p.position ≤ q.position then
        some (p.rest.take (q.position - p.position))
      else none
  | _, _ => none

end Marks

------------------------------------------------------------
-- Places
------------------------------------------------------------

/-
  A place in a text: how many characters the text has, how many
  of them are before the place, these with the nearest first, the
  characters after it, and the marks of groups.
-/
structure Place where
  size : Nat
  position : Nat
  before : Text
  rest : Text
  marks : Marks := []

namespace Place

/- Whether a place lies in a text without characters. -/
def inEmptyText
    (p : Place) :
    Bool :=
  p.before.isEmpty && p.rest.isEmpty

/- How many characters are after a place. -/
def left
    (p : Place) :
    Nat :=
  p.size - p.position

/- Whether exactly one of the two sides is a word character. -/
def atBoundary
    (ascii : Bool)
    (p : Place) :
    Bool :=
  p.before.head?.any (CharClass.holds ascii · .word) !=
    p.rest.head?.any (CharClass.holds ascii · .word)

/- The place after the next character, if it passes a test. -/
def next?
    (p : Place)
    (test : CodePoint → Bool) :
    Option Place :=
  match p.rest with
  | [] => none
  | c :: cs =>
      if test c then
        some
          { p with
            position := p.position + 1
            before := c :: p.before
            rest := cs }
      else none

/- The place some characters back, if there are as many. -/
def back?
    (p : Place)
    (n : Nat) :
    Option Place :=
  if n ≤ p.position then
    some
      { p with
        position := p.position - n
        before := p.before.drop n
        rest := (p.before.take n).reverse ++ p.rest }
  else none

/- The place after given characters, if they come next. -/
def after?
    (p : Place)
    (same : CodePoint → CodePoint → Bool) :
    Text → Option Place
  | [] => some p
  | c :: cs =>
      match p.next? (same c) with
      | some q => q.after? same cs
      | none => none

/- A place with a mark set at it. -/
def marked
    (p : Place)
    (number : Nat) :
    Place :=
  { p with marks := p.marks.put number ⟨p.position, p.rest⟩ }

/- A place after a failure that has left some marks. -/
def afterFailure
    (p : Place)
    (inLoop : Bool)
    (lost : Marks) :
    Place :=
  { p with marks := p.marks.afterFailure inLoop lost }

/- What a group has matched. -/
def groupText?
    (p : Place)
    (group : Nat) :
    Option Text :=
  p.marks.groupText? group

/-
  The places after each of up to `n` characters that pass a test,
  the last first, and `found` after them.
-/
def walk
    (test : CodePoint → Bool)
    (n : Nat)
    (found : List Place)
    (p : Place) :
    List Place :=
  match n with
  | 0 => p :: found
  | n + 1 =>
      match p.next? test with
      | some q => q.walk test n (p :: found)
      | none => p :: found

end Place

end Pattern

end LabelPress

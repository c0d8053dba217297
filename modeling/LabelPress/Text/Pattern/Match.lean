import LabelPress.Text.Pattern.Basic
import LabelPress.Text.Pattern.Place

/-
  Patterns matched against texts.

  A pattern leads from a place in a text to the places that a
  match may end at.  They are tried in order, the preferred one
  first, until what follows the pattern succeeds.  What fails
  leaves its marks, which are recalled wherever something else is
  tried, but not where the failure is only passed on.

  Key definitions include:
    * `Pattern.Trial`
    * `Pattern.run`
-/

namespace LabelPress

namespace Pattern

------------------------------------------------------------
-- Trials
------------------------------------------------------------

/- What a trial ends with: a place, or the marks it has left. -/
inductive Trial where
  | found (p : Place)
  | lost (marks : Marks)

/- Whether a trial has found a place. -/
def Trial.isFound :
    Trial → Bool
  | found _ => true
  | lost _ => false

/- What is tried from a place. -/
abbrev Attempt :=
  Place → Trial

/- A failure at a place. -/
def failAt
    (p : Place) :
    Trial :=
  .lost p.marks

/- Go on from a place under a condition. -/
def goOnIf
    (b : Bool)
    (k : Attempt)
    (p : Place) :
    Trial :=
  if b then k p else failAt p

/- Go on from a place that may be missing. -/
def goOnFrom
    (q? : Option Place)
    (k : Attempt)
    (p : Place) :
    Trial :=
  match q? with
  | some q => k q
  | none => failAt p

/- Go on from the first end of an attempt only. -/
def goOnAfter
    (trial : Trial)
    (k : Attempt) :
    Trial :=
  match trial with
  | .found q => k q
  | .lost marks => .lost marks

/- Try to go on from some places with the marks of another. -/
def tryEach
    (inLoop : Bool)
    (k : Attempt)
    (p : Place) :
    List Place → Trial
  | [] => failAt p
  | q :: qs =>
      match k { q with marks := p.marks } with
      | .found r => .found r
      | .lost marks => tryEach inLoop k (p.afterFailure inLoop marks) qs

------------------------------------------------------------
-- Repetitions
------------------------------------------------------------

/- Repeat a set of characters and go on. -/
def overSet
    (s : CharSet)
    (least : Nat)
    (most : Option Nat)
    (greed : Greed)
    (inLoop : Bool)
    (k : Attempt)
    (p : Place) :
    Trial :=
  let n := most.getD p.left
  let ends :=
    (p.walk s.holds n []).takeWhile fun q => p.position + least ≤ q.position
  match greed with
  | .greedy => tryEach inLoop k p ends
  | .lazy => tryEach inLoop k p ends.reverse
  | .possessive => goOnFrom ends.head? k p

/- Take a step `n` times and go on. -/
def times
    (step : Attempt → Attempt)
    (n : Nat)
    (k : Attempt)
    (p : Place) :
    Trial :=
  match n with
  | 0 => k p
  | n + 1 => step (times step n k) p

/-
  Take a step up to `n` times, as often as possible, and go on.
  There is no further step from where the last one began.
-/
def greedily
    (step : Attempt → Attempt)
    (k : Attempt)
    (n : Nat)
    (last : Option Nat)
    (p : Place) :
    Trial :=
  match n with
  | 0 => k p
  | n + 1 =>
      if last = some p.position then k p
      else
        match step (greedily step k n (some p.position)) p with
        | .found q => .found q
        | .lost _ => k p

/- Take a step up to `n` times, as seldom as possible, and go on. -/
def lazily
    (step : Attempt → Attempt)
    (inLoop : Bool)
    (k : Attempt)
    (n : Nat)
    (last : Option Nat)
    (p : Place) :
    Trial :=
  match k p with
  | .found q => .found q
  | .lost marks =>
      let p := p.afterFailure inLoop marks
      match n with
      | 0 => failAt p
      | n + 1 =>
          if last = some p.position then failAt p
          else step (lazily step inLoop k n (some p.position)) p

/- Take a step up to `n` times, each settled at once, and go on. -/
def settling
    (step : Attempt → Attempt)
    (k : Attempt)
    (n : Nat)
    (last : Option Nat)
    (p : Place) :
    Trial :=
  match n with
  | 0 => k p
  | n + 1 =>
      if last = some p.position then k p
      else
        match step .found p with
        | .found q => settling step k n (some p.position) q
        | .lost _ => k p

/- Repeat a step and go on. -/
def overStep
    (step : Attempt → Attempt)
    (least : Nat)
    (most : Option Nat)
    (greed : Greed)
    (inLoop : Bool)
    (k : Attempt)
    (p : Place) :
    Trial :=
  let more (q : Place) : Nat :=
    match most with
    | some m => m - least
    | none => q.left + 1
  match greed with
  | .greedy =>
      times step least (fun q => greedily step k (more q) none q) p
  | .lazy =>
      times step least (fun q => lazily step inLoop k (more q) none q) p
  | .possessive =>
      let settled (k : Attempt) (q : Place) : Trial :=
        goOnAfter (step .found q) k
      times settled least (fun q => settling step k (more q) none q) p

------------------------------------------------------------
-- Matching
------------------------------------------------------------

/- Stay at a place if something lies there, or if it does not. -/
def look
    (trial : Trial)
    (negated : Bool)
    (inLoop : Bool)
    (k : Attempt)
    (p : Place) :
    Trial :=
  match trial, negated with
  | .found q, false => k { p with marks := q.marks }
  | .lost marks, false => .lost marks
  | .found q, true => failAt q
  | .lost marks, true => k (p.afterFailure inLoop marks)

/- The character that ends a line. -/
def newline :
    CodePoint :=
  '\n'

/-
  Match a pattern from a place and go on from where it ends;
  `inLoop` tells whether it is part of a repetition.
-/
def run
    (pattern : Pattern)
    (inLoop : Bool)
    (k : Attempt)
    (p : Place) :
    Trial :=
  match pattern with
  | empty => k p
  | fail => failAt p
  | one s => goOnFrom (p.next? s.holds) k p
  | start => goOnIf p.before.isEmpty k p
  | lineStart =>
      goOnIf (p.before.isEmpty || p.before.head? == some newline) k p
  | finish => goOnIf p.rest.isEmpty k p
  | lineEnd => goOnIf (p.rest.isEmpty || p.rest == [newline]) k p
  | anyLineEnd =>
      goOnIf (p.rest.isEmpty || p.rest.head? == some newline) k p
  | boundary negated ascii =>
      goOnIf (!p.inEmptyText && p.atBoundary ascii != negated) k p
  | append a b => a.run inLoop (b.run inLoop k) p
  | either a b =>
      match a.run inLoop k p with
      | .found q => .found q
      | .lost marks =>
          let p := p.afterFailure inLoop marks
          match b.run inLoop k p with
          | .found q => .found q
          | .lost marks => failAt (p.afterFailure inLoop marks)
  | group a => a.run inLoop k p
  | capture n a =>
      a.run inLoop (fun q => k (q.marked (Marks.closing n)))
        (p.marked (Marks.opening n))
  | reference n _ rule =>
      let same := fun c d => rule.small c == rule.small d
      goOnFrom ((p.groupText? n).bind (p.after? same)) k p
  | conditional n a b =>
      if (p.groupText? n).isSome then a.run inLoop k p
      else b.run inLoop k p
  | repeated a least most greed =>
      match a.unit? with
      | some s => overSet s least most greed inLoop k p
      | none =>
          let step := a.run (inLoop || greed != .possessive)
          overStep step least most greed inLoop k p
  | atomic a => goOnAfter (a.run inLoop .found p) k
  | ahead a negated => look (a.run inLoop .found p) negated inLoop k p
  | behind a negated =>
      let trial :=
        match p.back? a.width.least with
        | some q => a.run inLoop .found q
        | none => failAt p
      look trial negated inLoop k p

end Pattern

end LabelPress

import LabelPress.Text.Pattern.Match
import LabelPress.Text.Pattern.Reader

/-
  Patterns searched for in texts.

  A search looks for a match at one place after another.  Where
  the pattern tells which characters its matches begin with, only
  places before one of them are tried.  Otherwise all places are
  tried that are not too close to the end.

  The classes among the characters to stop at are those that the
  flags for the whole pattern choose, also where a part of it has
  flags of its own.  A match that begins with such a part is found
  only at a character that belongs to both kinds of classes.

  Key definitions include:
    * `Pattern.literalStart`
    * `Pattern.firstSet?`
    * `PatternSearch.ofText`
    * `PatternSearch.succeeds`
-/

namespace LabelPress

------------------------------------------------------------
-- Sets that Begin a Pattern
------------------------------------------------------------

/- Whether a part of a set has a character in another case. -/
def SetItem.isCased
    (rule : CaseRule) :
    SetItem → Bool
  | single c => rule.isCased c
  | range first last =>
      let count := last.toNat + 1 - first.toNat
      rule != .exact &&
        (!isBasic last ||
          (List.range' first.toNat count).any fun n =>
            rule.isCased (CodePoint.ofNat n))
  | ofClass .. => false

/- A part of a set, its class of all scripts or of ASCII. -/
def SetItem.withScripts
    (ascii : Bool) :
    SetItem → SetItem
  | ofClass k negated _ => ofClass k negated ascii
  | item => item

namespace CharSet

/- The set of one character in no other case. -/
def only
    (c : CodePoint) :
    CharSet :=
  ⟨false, [.single c], .exact⟩

/- The only character that a set holds, in no other case. -/
def only? :
    CharSet → Option CodePoint
  | ⟨false, [.single c], rule⟩ => if rule.isCased c then none else some c
  | _ => none

/-
  Whether a set is put together from parts that are the same in
  every case.  One character is no such set, nor are all others.
-/
def isComposed
    (s : CharSet) :
    Bool :=
  match s.parts with
  | [] => false
  | [.single _] => false
  | parts => !parts.any (SetItem.isCased s.rule)

/- A set as it stands, its classes of all scripts or of ASCII. -/
def withScripts
    (ascii : Bool)
    (s : CharSet) :
    CharSet :=
  ⟨s.negated, s.parts.map (SetItem.withScripts ascii), .exact⟩

end CharSet

------------------------------------------------------------
-- Beginnings of Matches
------------------------------------------------------------

namespace Pattern

/-
  The characters that every match begins with, and whether the
  pattern has nothing else in it.
-/
def literalStart :
    Pattern → Text × Bool
  | empty => ([], true)
  | one s =>
      match s.only? with
      | some c => ([c], true)
      | none => ([], false)
  | append p q =>
      match p.literalStart with
      | (cs, true) =>
          let (ds, isAll) := q.literalStart
          (cs ++ ds, isAll)
      | (cs, false) => (cs, false)
  | group p => p.literalStart
  | capture _ p => p.literalStart
  | _ => ([], false)

/- The character at the very beginning of a row. -/
def head? :
    Pattern → Option CodePoint
  | one s => s.only?
  | append p _ => p.head?
  | _ => none

/- The set at the beginning of a pattern. -/
def firstSet? :
    Pattern → Option CharSet
  | one s => if s.isComposed then some s else none
  | append p _ => p.firstSet?
  | either p q => do
      let cs ← (p :: q.choices).mapM head?
      return ⟨false, cs.map .single, .exact⟩
  | group p => p.firstSet?
  | capture _ p => p.firstSet?
  | _ => none

/- The characters that a search for a pattern stops at. -/
def stops?
    (ascii : Bool)
    (p : Pattern) :
    Option CharSet :=
  match p.literalStart with
  | (c :: _, _) => some (.only c)
  | ([], _) => p.firstSet?.map (CharSet.withScripts ascii)

end Pattern

------------------------------------------------------------
-- Searches
------------------------------------------------------------

/- A pattern to search for, and the characters to stop at. -/
structure PatternSearch where
  pattern : Pattern
  stops : Option CharSet

namespace PatternSearch

/- The search for the pattern that a text denotes, up to a depth. -/
def ofText
    (limit : Nat)
    (s : Text) :
    Except PatternProblem PatternSearch := do
  let (pattern, flags) ← PatternReader.read limit s
  return ⟨pattern, pattern.stops? flags.ascii⟩

/-
  Whether a search tries a place.  Without characters to stop at
  it goes on while at most one character is missing for a match
  of the least width.
-/
def tries
    (search : PatternSearch)
    (p : Pattern.Place) :
    Bool :=
  match search.stops with
  | some s => p.rest.head?.any s.holds
  | none => search.pattern.width.least ≤ p.left + 1

/- Whether a match starts at a place. -/
def finds
    (search : PatternSearch)
    (p : Pattern.Place) :
    Bool :=
  search.tries p && (search.pattern.run false .found p).isFound

/- Whether a match starts at a place of a text or later. -/
def succeedsFrom
    (search : PatternSearch)
    (size : Nat)
    (position : Nat)
    (before : Text)
    (rest : Text) :
    Bool :=
  search.finds { size, position, before, rest } ||
    match rest with
    | [] => false
    | c :: cs => search.succeedsFrom size (position + 1) (c :: before) cs

/-
  Whether a search finds a match in a text, which must not be
  shorter than the least width.
-/
def succeeds
    (search : PatternSearch)
    (s : Text) :
    Bool :=
  search.pattern.width.least ≤ s.length &&
    search.succeedsFrom s.length 0 [] s

end PatternSearch

end LabelPress

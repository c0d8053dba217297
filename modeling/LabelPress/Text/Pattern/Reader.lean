import LabelPress.Text.Pattern.Escape
import LabelPress.Text.Pattern.Row

/-
  Patterns from their written form.

  A pattern is written as alternatives between bars, each a row
  of parts that may be repeated.  A part is a character, a point
  for any character but a newline, a set in brackets, an escape,
  an anchor, or something in parentheses: a group, a look ahead or
  behind, a reference to a group, a comment, or flags.

  Key definitions include:
    * `PatternFlags`
    * `PatternReader.Progress`
    * `PatternReader.row`, `PatternReader.alternatives`
    * `PatternReader.read`
-/

namespace LabelPress

/- What flags say about a part of a pattern. -/
structure PatternFlags where
  caseless : Bool := false
  lines : Bool := false
  anyIsAll : Bool := false
  spaced : Bool := false
  ascii : Bool := false
  allScripts : Bool := false
  unrepeated : Bool := false

namespace PatternFlags

/- Which characters count as the same. -/
def rule
    (f : PatternFlags) :
    CaseRule :=
  if !f.caseless then .exact
  else if f.ascii then .asciiCaseless
  else .caseless

/- Switch one flag on or off. -/
def switch?
    (on : Bool)
    (f : PatternFlags)
    (c : CodePoint) :
    Option PatternFlags :=
  match c with
  | .char 'i' => some { f with caseless := on }
  | .char 'm' => some { f with lines := on }
  | .char 's' => some { f with anyIsAll := on }
  | .char 'x' => some { f with spaced := on }
  | .char 'a' =>
      if on then some { f with ascii := true, allScripts := false } else none
  | .char 'u' =>
      if on then some { f with ascii := false, allScripts := true } else none
  | .char 't' => if on then some { f with unrepeated := true } else none
  | _ => none

/- Switch several flags on or off. -/
def switchAll?
    (on : Bool)
    (f : PatternFlags)
    (letters : Text) :
    Option PatternFlags :=
  letters.foldlM (switch? on) f

end PatternFlags

namespace PatternReader

------------------------------------------------------------
-- Progress
------------------------------------------------------------

/-
  How far reading has come: the depth that parts may have, the
  rest, the flags for the whole pattern and whether they have
  named both kinds of classes, how many groups were opened, the
  widths of those that were closed, the names of groups, the
  groups before the current look behind, and the groups that
  conditions ask for.
-/
structure Progress where
  limit : Nat
  rest : Text
  flags : PatternFlags := {}
  bothKinds : Bool := false
  groups : Nat := 0
  widths : List (Nat × Width) := []
  names : List (Text × Nat) := []
  behind : Option Nat := none
  conditions : List Nat := []

/- A step of reading. -/
abbrev Step (α : Type) :=
  StateT Progress (Except PatternProblem) α

/- Refuse the text. -/
def refuse
    {α : Type} :
    Step α :=
  throw .unreadable

/- Refuse the text unless a condition holds. -/
def require
    (b : Bool) :
    Step Unit :=
  if b then pure () else refuse

/- Go on with the rest after something. -/
def goOn
    (rest : Text) :
    Step Unit :=
  modify fun st => { st with rest }

/- Something that was read, and the rest after it. -/
def take
    {α : Type} :
    Option (α × Text) → Step α
  | some (a, rest) => do
      goOn rest
      return a
  | none => refuse

/- Pass over a character that must come next. -/
def pass
    (c : CodePoint) :
    Step Unit := do
  match (← get).rest with
  | d :: rest => if d = c then goOn rest else refuse
  | [] => refuse

------------------------------------------------------------
-- Groups by Number and Name
------------------------------------------------------------

/- Open a group, which may have a name of its own. -/
def openGroup
    (name : Option Text) :
    Step Nat := do
  let st ← get
  let number := st.groups + 1
  match name with
  | none => set { st with groups := number }
  | some s => do
      require (st.names.lookup s).isNone
      set { st with groups := number, names := (s, number) :: st.names }
  return number

/- Close a group with a pattern in it. -/
def closeGroup
    (number : Nat)
    (p : Pattern) :
    Step Unit :=
  modify fun st => { st with widths := (number, p.width) :: st.widths }

/- Check that a look behind may ask for a group. -/
def checkBehind
    (number : Nat) :
    Step Unit := do
  let st ← get
  match st.behind with
  | none => return ()
  | some groups =>
      require ((st.widths.lookup number).isSome && number ≤ groups)

/- A reference to a group, which must be closed. -/
def referTo
    (flags : PatternFlags)
    (number : Nat) :
    Step Pattern := do
  match (← get).widths.lookup number with
  | none => refuse
  | some width => do
      checkBehind number
      return .reference number width flags.rule

/- The characters up to a mark, which is passed over. -/
def textUntil
    (mark : CodePoint) :
    Step Text := do
  let cs := (← get).rest
  match Text.onFrom mark cs with
  | [] => refuse
  | _ :: rest => do
      goOn rest
      return Text.upTo mark cs

/- The name of a group up to a mark. -/
def nameUntil
    (mark : CodePoint) :
    Step Text := do
  let cs ← textUntil mark
  require (Text.isIdentifier cs)
  return cs

/- The group that a condition asks for, by its name or number. -/
def conditionGroup :
    Step Nat := do
  let cs ← textUntil ')'
  let st ← get
  if Text.isIdentifier cs then
    match st.names.lookup cs with
    | some number => do
        checkBehind number
        return number
    | none => refuse
  else
    match Text.integer? cs with
    | some (.ofNat (n + 1)) => do
        set { st with conditions := (n + 1) :: st.conditions }
        checkBehind (n + 1)
        return n + 1
    | _ => refuse

------------------------------------------------------------
-- Escapes
------------------------------------------------------------

/- A set of one part. -/
def single
    (flags : PatternFlags)
    (item : SetItem) :
    Pattern :=
  .one ⟨false, [item], flags.rule⟩

/- A digit after a backslash: an octal number or a reference. -/
def numbered
    (flags : PatternFlags)
    (cs : Text) :
    Step Pattern :=
  let octals := ((cs.take 3).takeWhile isOctal).length
  if cs.head? = some (.char '0') ∨ octals = 3 then do
    let c ← take (octal? cs)
    return single flags (.single c)
  else do
    let ds := (cs.take 2).takeWhile Text.isAsciiDigit
    goOn (cs.drop ds.length)
    referTo flags (Text.naturalOf ds)

/- An escape outside of sets after its backslash. -/
def escape
    (flags : PatternFlags)
    (cs : Text) :
    Step Pattern :=
  match cs with
  | .char 'b' :: rest => take (some (.boundary false flags.ascii, rest))
  | .char 'B' :: rest => take (some (.boundary true flags.ascii, rest))
  | .char 'A' :: rest => take (some (.start, rest))
  | .char 'Z' :: rest => take (some (.finish, rest))
  | c :: rest =>
      match class? flags.ascii c with
      | some item => take (some (single flags item, rest))
      | none =>
          if Text.isAsciiDigit c then numbered flags cs
          else do
            let d ← take (escapedChar? cs)
            return single flags (.single d)
  | [] => refuse

------------------------------------------------------------
-- Flags
------------------------------------------------------------

/- Whether a character may be among the letters of flags. -/
def isFlagPart
    (c : CodePoint) :
    Bool :=
  List.contains "imsxatu-" c

/- Whether letters name both kinds of classes. -/
def namesBothKinds
    (letters : Text) :
    Bool :=
  letters.contains 'a' && letters.contains 'u'

/-
  Flags that some letters switch on, and others after a hyphen
  switch off.  None may be in both, and a hyphen is followed by
  letters.
-/
def switched?
    (f : PatternFlags)
    (letters : Text) :
    Option PatternFlags :=
  let on := Text.upTo '-' letters
  match Text.onFrom '-' letters with
  | [] => if namesBothKinds on then none else f.switchAll? true on
  | _ :: off =>
      if off = [] ∨ namesBothKinds on ∨ on.any off.contains then none
      else do
        let f ← f.switchAll? true on
        f.switchAll? false off

------------------------------------------------------------
-- Repetitions
------------------------------------------------------------

/- Repeat the last of some parts, the latest first. -/
def repeatLast
    (parts : List PatternPart)
    (t : Times)
    (rest : Text) :
    Step (List PatternPart) :=
  match parts with
  | [] => refuse
  | part :: parts => do
      require part.isRepeatable
      let (g, rest) := greed rest
      goOn rest
      return .piece (.repeated part.whole t.least t.most g) :: parts

------------------------------------------------------------
-- Rows and Alternatives
------------------------------------------------------------

/-
  The depth some levels further in.  Parentheses count as two
  levels, the two parts of a condition as one.
-/
def inside
    (depth : Nat)
    (levels : Nat) :
    Step Nat := do
  if (← get).limit < depth + levels then throw .nestedTooDeep
  else return depth + levels

/- The row of some parts, the latest first. -/
def rowOf
    (parts : List PatternPart) :
    List Pattern :=
  parts.reverse.flatMap PatternPart.patterns

/- A condition on a group, with the rows to go on with. -/
def conditional
    (number : Nat)
    (yes : List PatternPart)
    (no : List PatternPart) :
    PatternPart :=
  .piece
    (.conditional number (.ofParts (rowOf yes)) (.ofParts (rowOf no)))

/- A look for what must not lie somewhere; nothing lies anywhere. -/
def without
    (look : Pattern → Bool → Pattern)
    (ps : List Pattern) :
    Pattern :=
  if ps.isEmpty then .fail else look (.ofParts ps) true

/- The rest after a mark; a character after a backslash is none. -/
def afterMark?
    (mark : CodePoint) :
    Text → Option Text
  | [] => none
  | .char '\\' :: _ :: cs => afterMark? mark cs
  | c :: cs => if c = mark then some cs else afterMark? mark cs

/-
  The rest after a note up to the end of its line.  A character
  after a backslash ends no line, and there has to be one.
-/
def afterNote? :
    Text → Option Text
  | [] => some []
  | [.char '\\'] => none
  | .char '\\' :: _ :: cs => afterNote? cs
  | c :: cs => if c = '\n' then some cs else afterNote? cs

/- A blank between the parts of a spaced pattern. -/
def isSpacing
    (c : CodePoint) :
    Bool :=
  c == ' ' || (0x09 ≤ c.toNat && c.toNat ≤ 0x0D)

/- A part that is no group, and starts with a character. -/
def simplePart
    (flags : PatternFlags)
    (c : CodePoint)
    (rest : Text) :
    Step Pattern :=
  match c with
  | .char '\\' => escape flags rest
  | .char '[' => do
      let s ← take (set? flags.ascii flags.rule rest)
      return .one s
  | .char '.' =>
      let breaks := if flags.anyIsAll then [] else [SetItem.single '\n']
      take (some (.one ⟨true, breaks, .exact⟩, rest))
  | .char '^' =>
      take (some (if flags.lines then .lineStart else .start, rest))
  | .char '$' =>
      take (some (if flags.lines then .anyLineEnd else .lineEnd, rest))
  | c => take (some (single flags (.single c), rest))

mutual

/- Alternatives up to a closing parenthesis. -/
def closed
    (fuel : Nat)
    (depth : Nat)
    (flags : PatternFlags) :
    Step (List Pattern) :=
  match fuel with
  | 0 => refuse
  | fuel + 1 => do
      let ps ← alternatives fuel (← inside depth 2) false flags
      pass ')'
      return ps

/-
  What stands in parentheses after the opening one, put in front
  of the parts before it.
-/
def parenthesis
    (fuel : Nat)
    (depth : Nat)
    (isFirst : Bool)
    (flags : PatternFlags)
    (parts : List PatternPart)
    (cs : Text) :
    Step (List PatternPart) :=
  match fuel with
  | 0 => refuse
  | fuel + 1 =>
      match cs with
      | .char '?' :: .char ':' :: rest => do
          goOn rest
          let ps ← closed fuel depth flags
          return .loose ps :: parts
      | .char '?' :: .char '>' :: rest => do
          goOn rest
          let ps ← closed fuel depth flags
          return .piece (.atomic (.ofParts ps)) :: parts
      | .char '?' :: .char '=' :: rest => do
          goOn rest
          let ps ← closed fuel depth flags
          return .piece (.ahead (.ofParts ps) false) :: parts
      | .char '?' :: .char '!' :: rest => do
          goOn rest
          let ps ← closed fuel depth flags
          return .piece (without .ahead ps) :: parts
      | .char '?' :: .char '<' :: .char '=' :: rest => do
          goOn rest
          let ps ← lookBehind fuel depth flags
          return .piece (.behind (.ofParts ps) false) :: parts
      | .char '?' :: .char '<' :: .char '!' :: rest => do
          goOn rest
          let ps ← lookBehind fuel depth flags
          return .piece (without .behind ps) :: parts
      | .char '?' :: .char 'P' :: .char '<' :: rest => do
          goOn rest
          let name ← nameUntil '>'
          captured fuel depth (some name) flags parts
      | .char '?' :: .char 'P' :: .char '=' :: rest => do
          goOn rest
          let name ← nameUntil ')'
          match (← get).names.lookup name with
          | some number => do
              let p ← referTo flags number
              return .piece p :: parts
          | none => refuse
      | .char '?' :: .char '#' :: rest =>
          match afterMark? ')' rest with
          | some rest => do
              goOn rest
              return parts
          | none => refuse
      | .char '?' :: .char '(' :: rest => do
          goOn rest
          let number ← conditionGroup
          let within ← inside depth 1
          let yes ← row fuel within false flags []
          match (← get).rest with
          | .char '|' :: rest => do
              goOn rest
              let no ← row fuel within false flags []
              pass ')'
              return conditional number yes no :: parts
          | _ => do
              pass ')'
              return conditional number yes [] :: parts
      | .char '?' :: rest =>
          let letters := rest.takeWhile isFlagPart
          match rest.dropWhile isFlagPart with
          | .char ':' :: after => do
              match switched? flags letters with
              | some inner => do
                  require (letters ≠ [] && !letters.contains 't')
                  goOn after
                  let ps ← closed fuel depth inner
                  return .piece (.group (.ofParts ps)) :: parts
              | none => refuse
          | .char ')' :: after => do
              let st ← get
              require
                (isFirst && parts.isEmpty && !letters.contains '-' &&
                  letters ≠ [])
              match switched? st.flags letters with
              | some flags => do
                  let bothKinds :=
                    st.bothKinds || (st.flags.ascii && flags.allScripts) ||
                      (st.flags.allScripts && flags.ascii)
                  set { st with flags, bothKinds, rest := after }
                  return parts
              | none => refuse
          | _ => refuse
      | rest => do
          goOn rest
          captured fuel depth none flags parts

/- A group that captures, put in front of the parts before it. -/
def captured
    (fuel : Nat)
    (depth : Nat)
    (name : Option Text)
    (flags : PatternFlags)
    (parts : List PatternPart) :
    Step (List PatternPart) :=
  match fuel with
  | 0 => refuse
  | fuel + 1 => do
      let number ← openGroup name
      let ps ← closed fuel depth flags
      let p := Pattern.ofParts ps
      closeGroup number p
      return .piece (.capture number p) :: parts

/- What must lie behind a place. -/
def lookBehind
    (fuel : Nat)
    (depth : Nat)
    (flags : PatternFlags) :
    Step (List Pattern) :=
  match fuel with
  | 0 => refuse
  | fuel + 1 => do
      let outer := (← get).behind
      modify fun st => { st with behind := some (outer.getD st.groups) }
      let ps ← alternatives fuel (← inside depth 2) false flags
      modify fun st => { st with behind := outer }
      pass ')'
      return ps

/- The parts of a row from some on, the latest first. -/
def row
    (fuel : Nat)
    (depth : Nat)
    (isFirst : Bool)
    (flags : PatternFlags)
    (parts : List PatternPart) :
    Step (List PatternPart) :=
  match fuel with
  | 0 => refuse
  | fuel + 1 => do
      let st ← get
      let flags := if depth = 0 then st.flags else flags
      match st.rest with
      | [] => return parts
      | c :: rest =>
          if c = '|' ∨ c = ')' then return parts
          else if flags.spaced && isSpacing c then do
            goOn rest
            row fuel depth isFirst flags parts
          else if flags.spaced && c == '#' then do
            match afterNote? rest with
            | some rest => do
                goOn rest
                row fuel depth isFirst flags parts
            | none => refuse
          else
            match times? (c :: rest) with
            | some found => do
                let (t, rest) ← found
                let parts ← repeatLast parts t rest
                row fuel depth isFirst flags parts
            | none =>
                if c = '(' then do
                  let parts ←
                    parenthesis fuel depth isFirst flags parts rest
                  row fuel depth isFirst flags parts
                else do
                  let p ← simplePart flags c rest
                  row fuel depth isFirst flags (.piece p :: parts)

/- Rows between bars. -/
def rows
    (fuel : Nat)
    (depth : Nat)
    (isFirst : Bool)
    (flags : PatternFlags) :
    Step (List (List Pattern)) :=
  match fuel with
  | 0 => refuse
  | fuel + 1 => do
      let parts ← row fuel depth isFirst flags []
      match (← get).rest with
      | .char '|' :: rest => do
          goOn rest
          let others ← rows fuel depth false flags
          return rowOf parts :: others
      | _ => return [rowOf parts]

/- Rows between bars as one. -/
def alternatives
    (fuel : Nat)
    (depth : Nat)
    (isFirst : Bool)
    (flags : PatternFlags) :
    Step (List Pattern) :=
  match fuel with
  | 0 => refuse
  | fuel + 1 => do
      let found ← rows fuel depth isFirst flags
      return Pattern.ofRows found

end

/- A whole text, with the flags for all of it. -/
def whole
    (fuel : Nat) :
    Step (Pattern × PatternFlags) := do
  let ps ← alternatives fuel 0 true {}
  let p := Pattern.ofParts ps
  let st ← get
  if st.bothKinds then throw .flagsAtOdds
  require
    (st.rest.isEmpty && p.looksBackFixed &&
      !(st.flags.unrepeated && p.hasRepetition) &&
      st.conditions.all fun number => number ≤ st.groups)
  return (p, st.flags)

/-
  The pattern that a text denotes, with the flags for all of it.
  Parts may lie inside each other up to a depth.  No part is
  nested deeper than the text is long, and each level takes six
  steps at most.
-/
def read
    (limit : Nat)
    (s : Text) :
    Except PatternProblem (Pattern × PatternFlags) :=
  StateT.run' (whole (6 * s.length + 6)) { limit, rest := s }

end PatternReader

end LabelPress

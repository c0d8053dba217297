import LabelPress.Text.Identifier
import LabelPress.Text.Named.Lookup
import LabelPress.Text.Numeral
import LabelPress.Text.Pattern.Basic

/-
  The smallest parts of written patterns.

  A backslash makes a class or a character of what follows it.
  Brackets hold the parts of a character set.  Braces, a star, a
  plus or a question mark bound a repetition.

  Key definitions include:
    * `PatternProblem`
    * `PatternReader.escapedChar?`, `PatternReader.octal?`
    * `PatternReader.set?`
    * `PatternReader.times?`
-/

namespace LabelPress

------------------------------------------------------------
-- Problems
------------------------------------------------------------

/- Why a text is no pattern. -/
inductive PatternProblem where
  | unreadable
  | countTooLarge
  | tooManyDigits (count : Nat)
  | flagsAtOdds
  | nestedTooDeep
  deriving DecidableEq

namespace PatternReader

------------------------------------------------------------
-- Escapes
------------------------------------------------------------

/- The character named in braces, and the rest. -/
def named?
    (cs : Text) :
    Option (CodePoint × Text) :=
  match cs with
  | .char '\x7b' :: cs =>
      match Text.onFrom '\x7d' cs with
      | [] => none
      | _ :: rest =>
          (CodePoint.named? (Text.upTo '\x7d' cs)).map fun c => (c, rest)
  | _ => none

/- A number of exactly `width` hexadecimal digits, and the rest. -/
def hex?
    (width : Nat)
    (cs : Text) :
    Option (CodePoint × Text) := do
  let ds ← (cs.take width).mapM Text.hexValue?
  if ds.length < width then none
  else
    let c ← CodePoint.ofNat? (ds.foldl (fun n d => 16 * n + d) 0)
    some (c, cs.drop width)

/- The class that a letter stands for. -/
def class?
    (ascii : Bool)
    (c : CodePoint) :
    Option SetItem :=
  match c with
  | .char 'd' => some (.ofClass .digit false ascii)
  | .char 'D' => some (.ofClass .digit true ascii)
  | .char 'w' => some (.ofClass .word false ascii)
  | .char 'W' => some (.ofClass .word true ascii)
  | .char 's' => some (.ofClass .blank false ascii)
  | .char 'S' => some (.ofClass .blank true ascii)
  | _ => none

/- The control character that a letter stands for. -/
def control?
    (c : CodePoint) :
    Option CodePoint :=
  match c with
  | .char 'a' => some (CodePoint.ofNat 7)
  | .char 'f' => some (CodePoint.ofNat 12)
  | .char 'n' => some '\n'
  | .char 'r' => some '\r'
  | .char 't' => some '\t'
  | .char 'v' => some (CodePoint.ofNat 11)
  | _ => none

/- An octal digit. -/
def isOctal
    (c : CodePoint) :
    Bool :=
  '0' ≤ c && c ≤ '7'

/- The number of octal digits. -/
def octalNumber
    (ds : Text) :
    Nat :=
  ds.foldl (fun n d => 8 * n + Text.asciiDigitValue d) 0

/- An octal number of up to three digits, and the rest. -/
def octal?
    (cs : Text) :
    Option (CodePoint × Text) :=
  let ds := (cs.take 3).takeWhile isOctal
  let n := octalNumber ds
  if ds = [] ∨ 0o377 < n then none
  else some (CodePoint.ofNat n, cs.drop ds.length)

/-
  The character of an escape after its backslash, and the rest.
  An ASCII letter or digit that stands for nothing is refused.
-/
def escapedChar? :
    Text → Option (CodePoint × Text)
  | [] => none
  | c :: cs =>
      if c = 'x' then hex? 2 cs
      else if c = 'u' then hex? 4 cs
      else if c = 'U' then hex? 8 cs
      else if c = 'N' then named? cs
      else
        match control? c with
        | some d => some (d, cs)
        | none => if c.isAlphanum then none else some (c, cs)

------------------------------------------------------------
-- Sets
------------------------------------------------------------

/- One part of a set, a class or a character, and the rest. -/
def setAtom?
    (ascii : Bool) :
    Text → Option (SetItem × Text)
  | [] => none
  | .char '\\' :: .char 'b' :: rest =>
      some (.single (CodePoint.ofNat 8), rest)
  | .char '\\' :: c :: rest =>
      match class? ascii c with
      | some item => some (item, rest)
      | none =>
          let found :=
            if isOctal c then octal? (c :: rest)
            else escapedChar? (c :: rest)
          found.map fun (d, rest) => (.single d, rest)
  | [.char '\\'] => none
  | c :: rest => some (.single c, rest)

/-
  The parts of a set up to its closing bracket, and the rest.  A
  bracket that comes first is a member.
-/
def setItems?
    (ascii : Bool)
    (fuel : Nat)
    (done : List SetItem)
    (cs : Text) :
    Option (List SetItem × Text) :=
  match fuel with
  | 0 => none
  | fuel + 1 =>
      match cs with
      | [] => none
      | c :: rest =>
          if c = ']' ∧ done ≠ [] then some (done.reverse, rest)
          else do
            let (item, after) ← setAtom? ascii cs
            match after with
            | .char '-' :: .char ']' :: rest =>
                some ((.single '-' :: item :: done).reverse, rest)
            | .char '-' :: after => do
                let (last, after) ← setAtom? ascii after
                match item, last with
                | .single a, .single b =>
                    if a ≤ b then
                      setItems? ascii fuel (.range a b :: done) after
                    else none
                | _, _ => none
            | after => setItems? ascii fuel (item :: done) after

/- A set after its opening bracket, and the rest. -/
def set?
    (ascii : Bool)
    (rule : CaseRule)
    (cs : Text) :
    Option (CharSet × Text) :=
  let (negated, cs) :=
    match cs with
    | .char '^' :: rest => (true, rest)
    | cs => (false, cs)
  (setItems? ascii (cs.length + 1) [] cs).map fun (parts, rest) =>
    (⟨negated, parts.eraseDups, rule⟩, rest)

------------------------------------------------------------
-- Repetitions
------------------------------------------------------------

/- The bounds of a repetition. -/
structure Times where
  least : Nat
  most : Option Nat

/- The count that ASCII digits denote; no digits give none. -/
def count
    (ds : Text) :
    Except PatternProblem (Option Nat) :=
  if ds = [] then .ok none
  else if Text.maxIntegerDigits < ds.length then
    .error (.tooManyDigits ds.length)
  else
    let n := Text.naturalOf ds
    if Pattern.countLimit ≤ n then .error .countTooLarge else .ok (some n)

/- The bounds that two runs of digits denote, and the rest. -/
def bounds
    (low : Text)
    (high : Text)
    (rest : Text) :
    Except PatternProblem (Times × Text) :=
  if rest = "\\" then .error .unreadable
  else do
    let least := (← count low).getD 0
    let most ← count high
    if most.any fun m => m < least then throw .unreadable
    else return (⟨least, most⟩, rest)

/-
  Bounds in braces after the opening one, and the rest; none when
  the brace is an ordinary character.
-/
def braces?
    (cs : Text) :
    Option (Except PatternProblem (Times × Text)) :=
  let (low, rest) := Text.splitDigits cs
  match rest with
  | .char '\x7d' :: rest =>
      if low = [] then none else some (bounds low low rest)
  | .char ',' :: rest =>
      match Text.splitDigits rest with
      | (high, .char '\x7d' :: rest) => some (bounds low high rest)
      | _ => none
  | _ => none

/- The bounds of a repetition at the start, and the rest. -/
def times? :
    Text → Option (Except PatternProblem (Times × Text))
  | .char '*' :: rest => some (.ok (⟨0, none⟩, rest))
  | .char '+' :: rest => some (.ok (⟨1, none⟩, rest))
  | .char '?' :: rest => some (.ok (⟨0, some 1⟩, rest))
  | .char '\x7b' :: rest => braces? rest
  | _ => none

/- The mark that follows the bounds, and the rest. -/
def greed :
    Text → Greed × Text
  | .char '?' :: rest => (.lazy, rest)
  | .char '+' :: rest => (.possessive, rest)
  | cs => (.greedy, cs)

end PatternReader

end LabelPress

import LabelPress.Value.Basic

/-
  Values from JSON texts.

  Objects keep the order of their keys; of a repeated key the
  last value counts, at the place of the first.  A number is an
  integer unless it has a fraction or an exponent, and the words
  for the undefined and the infinite numbers are numbers too.
  The first error is reported with its place.

  Key definitions include:
    * `Json.Misread`, an error and how much text was left
    * `Json.string`, `Json.number`, `Json.value`
    * `Json.parse`
-/

namespace LabelPress

namespace Json

------------------------------------------------------------
-- Errors
------------------------------------------------------------

/- Why reading stopped, and how many characters were left. -/
inductive Misread where
  | problem (p : JsonProblem) (left : Nat)
  | tooManyDigits (count : Nat)
  | tooDeep

/- Stop at the start of some characters. -/
def stop
    {α : Type}
    (p : JsonProblem)
    (cs : Text) :
    Except Misread α :=
  .error (.problem p cs.length)

/- Blanks between tokens. -/
def isSpace
    (c : CodePoint) :
    Bool :=
  c == ' ' || c == '\t' || c == '\n' || c == '\r'

/- Drop blanks between tokens. -/
def skipSpace
    (cs : Text) :
    Text :=
  cs.dropWhile isSpace

------------------------------------------------------------
-- Strings
------------------------------------------------------------

/- The number of four hexadecimal digits. -/
def hexNumber?
    (a : CodePoint)
    (b : CodePoint)
    (c : CodePoint)
    (d : CodePoint) :
    Option Nat := do
  let a ← Text.hexValue? a
  let b ← Text.hexValue? b
  let c ← Text.hexValue? c
  let d ← Text.hexValue? d
  some (((a * 16 + b) * 16 + c) * 16 + d)

/- The character of a letter escape. -/
def letterEscape?
    (c : CodePoint) :
    Option CodePoint :=
  if c = Text.doubleQuote ∨ c = Text.backslash ∨ c = '/' then some c
  else if c = 'b' then some (CodePoint.ofNat 8)
  else if c = 'f' then some (CodePoint.ofNat 12)
  else if c = 'n' then some '\n'
  else if c = 'r' then some '\r'
  else if c = 't' then some '\t'
  else none

/- The character that two halves of a pair form. -/
def pairOf?
    (high : Nat)
    (low : Nat) :
    Option CodePoint :=
  if 0xD800 ≤ high ∧ high ≤ 0xDBFF ∧ 0xDC00 ≤ low ∧ low ≤ 0xDFFF then
    some (CodePoint.ofNat (0x10000 + (high - 0xD800) * 0x400 + (low - 0xDC00)))
  else none

/-
  An escape after its backslash: the character, and how many
  characters it takes.  A numbered escape must not end the text;
  it may name a half of a surrogate pair.
-/
def escape :
    Text → Except Misread (CodePoint × Nat)
  | .char 'u' :: a :: b :: c :: d :: e :: rest =>
      match hexNumber? a b c d with
      | none => stop .badUnicodeEscape ('u' :: a :: b :: c :: d :: e :: rest)
      | some n =>
          match e :: rest with
          | .char '\\' :: .char 'u' :: f :: g :: h :: i :: _ :: _ =>
              match (hexNumber? f g h i).bind (pairOf? n) with
              | some c => .ok (c, 11)
              | none => .ok (CodePoint.ofNat n, 5)
          | _ => .ok (CodePoint.ofNat n, 5)
  | .char 'u' :: rest => stop .badUnicodeEscape ('u' :: rest)
  | c :: rest =>
      match letterEscape? c with
      | some c => .ok (c, 1)
      | none => .error (.problem .badEscape (rest.length + 2))
  | [] => stop .unterminatedString []

/- A string without an end; its opening quote is at fault. -/
def unterminated
    {α : Type}
    (opened : Text) :
    Except Misread α :=
  .error (.problem .unterminatedString (opened.length + 1))

/-
  The rest of a string; `opened` is the text after its opening
  quote.  `skip` counts characters that an escape has used up;
  `done` holds what was read, reversed.
-/
def stringFrom
    (opened : Text)
    (skip : Nat)
    (done : Text) :
    Text → Except Misread (Text × Text)
  | [] => unterminated opened
  | c :: cs =>
      match skip with
      | skip + 1 => stringFrom opened skip done cs
      | 0 =>
          if c = Text.doubleQuote then
            .ok (done.reverse, cs)
          else if c = Text.backslash then
            match cs with
            | [] => unterminated opened
            | cs =>
                match escape cs with
                | .ok (d, n) => stringFrom opened n (d :: done) cs
                | .error m => .error m
          else if c.toNat < 0x20 then stop .controlCharacter (c :: cs)
          else stringFrom opened 0 (c :: done) cs

/- The rest of a string after its opening quote. -/
def string
    (cs : Text) :
    Except Misread (Text × Text) :=
  stringFrom cs 0 [] cs

------------------------------------------------------------
-- Numbers
------------------------------------------------------------

/- The digits before the point: a zero, or digits without one. -/
def wholeDigits
    (cs : Text) :
    Text × Text :=
  match cs with
  | .char '0' :: rest => ("0", rest)
  | cs => Text.splitDigits cs

/- A fraction, empty unless the point has a digit after it. -/
def fractionDigits
    (cs : Text) :
    Text × Text :=
  match cs with
  | .char '.' :: rest =>
      match Text.splitDigits rest with
      | ([], _) => ([], cs)
      | split => split
  | cs => ([], cs)

/- An exponent, absent unless the mark has a digit after it. -/
def exponent?
    (cs : Text) :
    Option Int × Text :=
  match cs with
  | mark :: rest =>
      if mark = 'e' ∨ mark = 'E' then
        let (negative, rest) := Text.splitSign rest
        match Text.splitDigits rest with
        | ([], _) => (none, cs)
        | (ds, rest) =>
            (some (Double.signed negative (Text.naturalOf ds)), rest)
      else (none, cs)
  | [] => (none, cs)

/- A leading minus, and the rest. -/
def minus :
    Text → Bool × Text
  | .char '-' :: cs => (true, cs)
  | cs => (false, cs)

/- A number in digits. -/
def number
    (cs : Text) :
    Except Misread (Value × Text) :=
  let (negative, rest) := minus cs
  match wholeDigits rest with
  | ([], _) => stop .expectingValue cs
  | (whole, rest) =>
      let (fraction, rest) := fractionDigits rest
      let (exponent, rest) := exponent? rest
      if fraction = [] ∧ exponent = none then
        if Text.maxIntegerDigits < whole.length then
          .error (.tooManyDigits whole.length)
        else
          .ok (.int (Double.signed negative (Text.naturalOf whole)), rest)
      else
        let d : Decimal :=
          ⟨Text.naturalOf (whole ++ fraction),
            exponent.getD 0 - fraction.length⟩
        .ok (.double (Double.ofDecimal negative d), rest)

------------------------------------------------------------
-- Values
------------------------------------------------------------

/- The words that are values. -/
def words :
    List (Text × Value) :=
  [("null", .null), ("true", .bool true),
    ("false", .bool false), ("NaN", .double .nan),
    ("Infinity", .double (.infinite false)),
    ("-Infinity", .double (.infinite true))]

/- A word at the start, and the rest. -/
def word?
    (cs : Text) :
    Option (Value × Text) :=
  words.findSome? fun (w, v) =>
    if w.isPrefixOf cs then some (v, cs.drop w.length) else none

mutual

/-
  A value at the start, and the rest.  Arrays and objects may lie
  inside each other up to a depth.  The fuel is more than twice
  the length of the text, and each two steps use up a character.
-/
def value
    (fuel : Nat)
    (depth : Nat)
    (cs : Text) :
    Except Misread (Value × Text) :=
  match fuel with
  | 0 => stop .expectingValue cs
  | fuel + 1 =>
      match cs with
      | [] => stop .expectingValue []
      | c :: rest =>
          if c = Text.doubleQuote then
            match string rest with
            | .ok (s, rest) => .ok (.text s, rest)
            | .error m => .error m
          else if c = '[' then
            match depth, skipSpace rest with
            | 0, _ => .error .tooDeep
            | _ + 1, .char ']' :: rest => .ok (.list [], rest)
            | depth + 1, rest => items fuel depth [] rest
          else if c = '\x7b' then
            match depth, skipSpace rest with
            | 0, _ => .error .tooDeep
            | _ + 1, .char '\x7d' :: rest => .ok (.object [], rest)
            | depth + 1, rest => fields fuel depth [] rest
          else
            match word? (c :: rest) with
            | some found => .ok found
            | none => number (c :: rest)

/- The items of an array from one of them on. -/
def items
    (fuel : Nat)
    (depth : Nat)
    (done : List Value)
    (cs : Text) :
    Except Misread (Value × Text) :=
  match fuel with
  | 0 => stop .expectingValue cs
  | fuel + 1 =>
      match value fuel depth cs with
      | .error m => .error m
      | .ok (v, rest) =>
          match skipSpace rest with
          | .char ']' :: rest => .ok (.list (v :: done).reverse, rest)
          | .char ',' :: rest => items fuel depth (v :: done) (skipSpace rest)
          | rest => stop .expectingComma rest

/- The fields of an object from one of them on. -/
def fields
    (fuel : Nat)
    (depth : Nat)
    (done : Fields)
    (cs : Text) :
    Except Misread (Value × Text) :=
  match fuel with
  | 0 => stop .expectingValue cs
  | fuel + 1 =>
      match cs with
      | [] => stop .expectingName []
      | c :: rest =>
          if c = Text.doubleQuote then
            match string rest with
            | .error m => .error m
            | .ok (key, rest) =>
                match skipSpace rest with
                | .char ':' :: rest =>
                    match value fuel depth (skipSpace rest) with
                    | .error m => .error m
                    | .ok (v, rest) =>
                        let done := done.set key v
                        match skipSpace rest with
                        | .char '\x7d' :: rest => .ok (.object done, rest)
                        | .char ',' :: rest =>
                            fields fuel depth done (skipSpace rest)
                        | rest => stop .expectingComma rest
                | rest => stop .expectingColon rest
          else stop .expectingName (c :: rest)

end

------------------------------------------------------------
-- Texts
------------------------------------------------------------

/- The line and the column of a place, both from one. -/
def lineColumn
    (passed : Text) :
    Nat × Nat :=
  (passed.count (.char '\n') + 1,
    (Text.upTo '\n' passed.reverse).length + 1)

/- The fault for an error in a text. -/
def faultAt
    (text : Text) :
    Misread → Fault
  | .tooManyDigits count => .tooManyDigits Text.maxIntegerDigits count
  | .tooDeep => .nestedTooDeep
  | .problem p left =>
      let offset := text.length - left
      let (line, column) := lineColumn (text.take offset)
      .malformedJson p line column offset

/-
  A value that fills a text, in which arrays and objects lie in
  each other up to a depth.
-/
def document
    (depth : Nat)
    (cs : Text) :
    Except Misread Value :=
  if cs.head? = some (CodePoint.ofNat 0xFEFF) then stop .byteOrderMark cs
  else
    match value (2 * cs.length + 2) depth (skipSpace cs) with
    | .error m => .error m
    | .ok (v, rest) =>
        match skipSpace rest with
        | [] => .ok v
        | rest => stop .extraData rest

/- The value that a JSON text denotes, up to a depth. -/
def parse
    (depth : Nat)
    (s : Text) :
    Except Fault Value :=
  match document depth s with
  | .ok v => .ok v
  | .error m => .error (faultAt s m)

end Json

end LabelPress

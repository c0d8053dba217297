import LabelPress.Text.Basic
import LabelPress.Text.CaseTable

/-
  Capital and small forms of text.

  ASCII letters are mapped at once; all others go through the
  case mappings of Unicode.  A capital form may have several
  characters.  A capital sigma that ends a word becomes the
  final small sigma.  Two characters differ in case at most when
  their small forms have the same capital form.

  Key definitions include:
    * `Text.upper`
    * `Text.lower`
    * `Text.caseForms`
-/

namespace LabelPress

namespace Text

/- Move a code point by the run it lies in. -/
def shiftBy
    (runs : List CaseRun)
    (n : Nat) :
    Nat :=
  match runs.find? fun r =>
      r.first ≤ n && n ≤ r.last && (n - r.first) % r.stride == 0 with
  | some r => (n + r.shift).toNat
  | none => n

/- The capital form of a character. -/
def upperChar
    (c : CodePoint) :
    Text :=
  if c.toNat < 128 then [c.toUpper]
  else
    match upperSequences.find? fun s => s.1 == c.toNat with
    | some s => s.2.map CodePoint.ofNat
    | none => [CodePoint.ofNat (shiftBy upperRuns c.toNat)]

/- The small form of a character, its place left aside. -/
def lowerChar
    (c : CodePoint) :
    Text :=
  if c.toNat < 128 then [c.toLower]
  else if c.toNat = 0x130 then ['i', CodePoint.ofNat 0x307]
  else [CodePoint.ofNat (shiftBy lowerRuns c.toNat)]

/- The code points that runs move to a given one. -/
def movedTo
    (runs : List CaseRun)
    (n : Nat) :
    List Nat :=
  runs.filterMap fun r =>
    let m := ((n : Int) - r.shift).toNat
    if r.first ≤ m && m ≤ r.last && (m - r.first) % r.stride == 0 then some m
    else none

/- The small form of a character as a single one. -/
def smallChar
    (c : CodePoint) :
    CodePoint :=
  (lowerChar c).headD c

/- The capital form of a character as a single one. -/
def capitalChar
    (c : CodePoint) :
    CodePoint :=
  (upperChar c).headD c

/- The characters whose capital form is a given one. -/
def charsOfCapital
    (capital : Text) :
    Text :=
  match capital with
  | [c] => c :: (movedTo upperRuns c.toNat).map CodePoint.ofNat
  | cs =>
      (upperSequences.filter fun s => s.2.map CodePoint.ofNat == cs).map fun s =>
        CodePoint.ofNat s.1

/-
  The characters that differ from one in case at most: those with
  the same capital form of the small form.
-/
def caseForms
    (c : CodePoint) :
    Text :=
  let alike := charsOfCapital (upperChar (smallChar c))
  let larger :=
    alike.flatMap fun d => (movedTo lowerRuns d.toNat).map CodePoint.ofNat
  let dotted := if alike.contains 'i' then [CodePoint.ofNat 0x130] else []
  c :: alike ++ larger ++ dotted

/- Whether the nearest character that is noticed has a case. -/
def meetsCased
    (cs : Text) :
    Bool :=
  match cs.dropWhile fun c => inRanges ignorableRanges c.toNat with
  | [] => false
  | c :: _ => inRanges casedRanges c.toNat

/-
  Small forms from left to right; `before` holds what has been
  passed, the latest first.
-/
def lowerFrom
    (before : Text) :
    Text → Text
  | [] => []
  | c :: cs =>
      let form :=
        if c.toNat = 0x3A3 then
          if meetsCased before && !meetsCased cs then [CodePoint.ofNat 0x3C2]
          else [CodePoint.ofNat 0x3C3]
        else lowerChar c
      form ++ lowerFrom (c :: before) cs

/- The capital form of a text. -/
def upper
    (t : Text) :
    Text :=
  t.flatMap upperChar

/- The small form of a text. -/
def lower
    (t : Text) :
    Text :=
  lowerFrom [] t

end Text

end LabelPress

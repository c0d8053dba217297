import LabelPress.Text.CodePoint

/-
  Texts as lists of code points.

  Key definitions include:
    * `Text`
    * `Text.ofString`, by which a string is a text
    * `Text.intercalate`, `Text.partsBetween`
    * `Text.upTo`, `Text.onFrom`
    * `Text.asString`, for the outer world
    * `Text.run`, `Text.digits`
-/

namespace LabelPress

/- A text is the list of its code points. -/
abbrev Text :=
  List CodePoint

namespace Text

/- The text of a string. -/
def ofString
    (s : String) :
    Text :=
  s.toList.map .char

instance :
    Coe String Text :=
  ⟨ofString⟩

/- Texts one after another, with a separator between them. -/
def intercalate
    (separator : Text)
    (texts : List Text) :
    Text :=
  List.intercalate separator texts

/- The parts of a text between the places of a mark. -/
def partsBetween
    (mark : CodePoint) :
    Text → List Text
  | [] => [[]]
  | c :: cs =>
      if c = mark then [] :: partsBetween mark cs
      else
        match partsBetween mark cs with
        | [] => [[c]]
        | part :: parts => (c :: part) :: parts

/- The text before the first place of a mark. -/
def upTo
    (mark : CodePoint)
    (t : Text) :
    Text :=
  t.takeWhile fun c => c ≠ mark

/- The text from the first place of a mark on. -/
def onFrom
    (mark : CodePoint)
    (t : Text) :
    Text :=
  t.dropWhile fun c => c ≠ mark

/- One code point again and again. -/
def run
    (c : CodePoint)
    (count : Nat) :
    Text :=
  List.replicate count c

/- The digits of a natural number to a base. -/
def digits
    (base : Nat)
    (n : Nat) :
    Text :=
  (Nat.toDigits base n).map .char

/- A text as a string; a half of a pair is shown by U+FFFD. -/
def asString
    (t : Text) :
    String :=
  String.ofList (t.map fun
    | .char c => c
    | .half _ => Char.ofNat 0xFFFD)

end Text

end LabelPress

/-
  Sets of characters as closed ranges of code points.

  Key definitions include:
    * `inRanges`
    * `rangeOf?`, the range a code point lies in
-/

namespace LabelPress

namespace Text

/- The first closed range that holds a code point. -/
def rangeOf?
    (ranges : List (Nat × Nat))
    (n : Nat) :
    Option (Nat × Nat) :=
  ranges.find? fun r => r.1 ≤ n && n ≤ r.2

/- Whether a code point lies in one of the ranges. -/
def inRanges
    (ranges : List (Nat × Nat))
    (n : Nat) :
    Bool :=
  ranges.any fun r => r.1 ≤ n && n ≤ r.2

end Text

end LabelPress

/-
  Code points of text.

  A code point is a character, or one half of a surrogate pair
  that stands without the other.  Such a half is no character,
  but texts from outside may hold it, and it has to come out
  again as it went in.  Code points are ordered by their
  numbers.

  Key definitions include:
    * `CodePoint`
    * `CodePoint.toNat`, `CodePoint.ofNat`
    * `CodePoint.half?`
-/

namespace LabelPress

/- A character, or a half of a surrogate pair on its own. -/
inductive CodePoint where
  | char (c : Char)
  | half (offset : Fin 0x800)
  deriving DecidableEq

namespace CodePoint

instance :
    Inhabited CodePoint :=
  ⟨char default⟩

instance :
    Coe Char CodePoint :=
  ⟨char⟩

------------------------------------------------------------
-- Numbers
------------------------------------------------------------

/- The number of the first half of a surrogate pair. -/
def firstHalf :
    Nat :=
  0xD800

/- The number of a code point. -/
def toNat :
    CodePoint → Nat
  | char c => c.toNat
  | half offset => firstHalf + offset

/-
  The code point of a number; beyond the last code point it is
  the null character.
-/
def ofNat
    (n : Nat) :
    CodePoint :=
  if h : n - firstHalf < 0x800 ∧ firstHalf ≤ n then half ⟨n - firstHalf, h.1⟩
  else char (Char.ofNat n)

/- The code point of a number, if there is one. -/
def ofNat?
    (n : Nat) :
    Option CodePoint :=
  if n < 0x110000 then some (ofNat n) else none

/- The number of a half of a surrogate pair. -/
def half? :
    CodePoint → Option Nat
  | char _ => none
  | half offset => some (firstHalf + offset)

/- Code points come in the order of their numbers. -/
instance :
    LE CodePoint :=
  ⟨fun c d => c.toNat ≤ d.toNat⟩

instance
    (c d : CodePoint) :
    Decidable (c ≤ d) :=
  inferInstanceAs (Decidable (c.toNat ≤ d.toNat))

instance :
    LT CodePoint :=
  ⟨fun c d => c.toNat < d.toNat⟩

instance
    (c d : CodePoint) :
    Decidable (c < d) :=
  inferInstanceAs (Decidable (c.toNat < d.toNat))

------------------------------------------------------------
-- Classes of ASCII
------------------------------------------------------------

/- Whether a code point is an ASCII capital letter. -/
def isUpper
    (c : CodePoint) :
    Bool :=
  'A' ≤ c && c ≤ 'Z'

/- Whether a code point is an ASCII small letter. -/
def isLower
    (c : CodePoint) :
    Bool :=
  'a' ≤ c && c ≤ 'z'

/- Whether a code point is an ASCII digit. -/
def isDigit
    (c : CodePoint) :
    Bool :=
  '0' ≤ c && c ≤ '9'

/- Whether a code point is an ASCII letter or digit. -/
def isAlphanum
    (c : CodePoint) :
    Bool :=
  isUpper c || isLower c || isDigit c

/- The capital form of an ASCII letter. -/
def toUpper
    (c : CodePoint) :
    CodePoint :=
  if isLower c then ofNat (c.toNat - 0x20) else c

/- The small form of an ASCII letter. -/
def toLower
    (c : CodePoint) :
    CodePoint :=
  if isUpper c then ofNat (c.toNat + 0x20) else c

end CodePoint

end LabelPress

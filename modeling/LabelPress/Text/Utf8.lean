import LabelPress.Text.Basic

/-
  Texts as bytes of UTF-8.

  A character takes one to four bytes.  A half of a surrogate pair
  has no bytes of its own, but in a name and in what a file holds
  the halves U+DC80 to U+DCFF stand for single bytes that are no
  UTF-8.

  Key definitions include:
    * `Text.byteCount`
    * `Text.LoneHalves`
    * `Text.loneHalves?`
    * `Text.StrayBytes`
    * `Text.strayBytes?`
    * `Text.ofBytes`
-/

namespace LabelPress

namespace Text

/- The number of bytes of a text; a half stands for one. -/
def byteCount :
    Text → Nat
  | [] => 0
  | .char c :: cs => c.utf8Size + byteCount cs
  | .half _ :: cs => 1 + byteCount cs

/- Halves of surrogate pairs next to each other in a text. -/
structure LoneHalves where
  first : Nat
  position : Nat
  count : Nat
  deriving DecidableEq

/- Whether a code point is a half of a surrogate pair. -/
def isHalf
    (c : CodePoint) :
    Bool :=
  c.half?.isSome

/-
  The first half of a pair that fails a test, and the halves that
  follow it; `position` counts the code points before.
-/
def loneHalvesFrom
    (passes : Nat → Bool)
    (position : Nat) :
    Text → Option LoneHalves
  | [] => none
  | c :: cs =>
      match c.half? with
      | some half =>
          if passes half then loneHalvesFrom passes (position + 1) cs
          else some ⟨half, position, (cs.takeWhile isHalf).length + 1⟩
      | none => loneHalvesFrom passes (position + 1) cs

/- The first halves of pairs in a text, which has no bytes then. -/
def loneHalves?
    (t : Text) :
    Option LoneHalves :=
  loneHalvesFrom (fun _ => false) 0 t

/- Whether a half of a surrogate pair stands for a byte of a name. -/
def isByteHalf
    (half : Nat) :
    Bool :=
  0xDC80 ≤ half && half ≤ 0xDCFF

/- The first halves in a name that stand for no bytes. -/
def loneHalvesOfName?
    (name : Text) :
    Option LoneHalves :=
  loneHalvesFrom isByteHalf 0 name

------------------------------------------------------------
-- Bytes That Are No Text
------------------------------------------------------------

/- What is wrong with bytes that are no UTF-8. -/
inductive DecodeProblem where
  | invalidStart
  | invalidContinuation
  | unexpectedEnd
  deriving DecidableEq

/- The wording of what is wrong with bytes. -/
def DecodeProblem.message :
    DecodeProblem → Text
  | invalidStart => "invalid start byte"
  | invalidContinuation => "invalid continuation byte"
  | unexpectedEnd => "unexpected end of data"

/- Bytes next to each other that are no UTF-8. -/
structure StrayBytes where
  first : Nat
  position : Nat
  count : Nat
  problem : DecodeProblem
  deriving DecidableEq

/- The byte that a half of a surrogate pair stands for. -/
def byteOf
    (half : Nat) :
    Nat :=
  half % 0x100

/- How many bytes follow a byte that starts a character. -/
def followers
    (byte : Nat) :
    Nat :=
  if 0xC2 ≤ byte ∧ byte ≤ 0xDF then 1
  else if 0xE0 ≤ byte ∧ byte ≤ 0xEF then 2
  else if 0xF0 ≤ byte ∧ byte ≤ 0xF4 then 3
  else 0

/- Whether a byte can be the second of a character. -/
def canBeSecond
    (first : Nat)
    (byte : Nat) :
    Bool :=
  let least :=
    if first = 0xE0 then 0xA0 else if first = 0xF0 then 0x90 else 0x80
  let most :=
    if first = 0xED then 0x9F else if first = 0xF4 then 0x8F else 0xBF
  least ≤ byte && byte ≤ most

/- Whether a byte can be the third or fourth of a character. -/
def canContinue
    (byte : Nat) :
    Bool :=
  0x80 ≤ byte && byte ≤ 0xBF

/- How many halves in front stand for bytes that go on with a character. -/
def continued
    (first : Nat)
    (rest : Text) :
    Nat :=
  match (rest.takeWhile isHalf).map fun c => byteOf c.toNat with
  | [] => 0
  | second :: others =>
      if canBeSecond first second then
        1 + ((others.take (followers first - 2)).takeWhile
          canContinue).length
      else 0

/- The bytes of a half and of what follows it. -/
def strayBytesAt
    (position : Nat)
    (half : Nat)
    (rest : Text) :
    StrayBytes :=
  let first := byteOf half
  if followers first = 0 then ⟨first, position, 1, .invalidStart⟩
  else
    let count := continued first rest
    ⟨first, position, count + 1,
      if rest.length = count then .unexpectedEnd
      else .invalidContinuation⟩

/-
  The first bytes in what a file holds that are no UTF-8;
  `position` counts the bytes before.
-/
def strayBytesFrom
    (position : Nat) :
    Text → Option StrayBytes
  | [] => none
  | .char c :: cs => strayBytesFrom (position + c.utf8Size) cs
  | .half offset :: cs =>
      some (strayBytesAt position (CodePoint.half offset).toNat cs)

/- The first bytes in what a file holds that are no UTF-8. -/
def strayBytes? :
    Text → Option StrayBytes :=
  strayBytesFrom 0

/- Bytes as a text; those that are no UTF-8 become halves. -/
def ofBytes
    (bytes : ByteArray) :
    Text :=
  go bytes.size 0
where
  go (fuel : Nat) (position : Nat) : Text :=
    match fuel, bytes[position]? with
    | fuel + 1, some byte =>
        match bytes.utf8DecodeChar? position with
        | some c => .char c :: go fuel (position + c.utf8Size)
        | none =>
            CodePoint.ofNat (0xDC00 + byte.toNat) :: go fuel (position + 1)
    | _, _ => []

end Text

end LabelPress

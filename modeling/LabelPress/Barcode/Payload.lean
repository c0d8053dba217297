import LabelPress.Barcode.Symbology
import LabelPress.Text.DecimalDigit

/-
  The data that barcodes carry.

  A payload is accepted by a symbology when its characters and
  its length fit.  Three numeric symbologies end in a check digit
  that makes the weighted sum of all digits a multiple of ten,
  the weights alternating 1, 3, 1, ... from the right.

  Key definitions include:
    * `Symbology.accepts`
    * `Symbology.checkDigit?`
    * `weightedSum`
    * `Payload.isAccepted` and `Payload.checkDigit?`, by the key
      of a symbology
-/

namespace LabelPress

------------------------------------------------------------
-- Accepted Payloads
------------------------------------------------------------

/- The most bytes that a QR code holds. -/
def maxQrBytes :
    Nat :=
  2953

/- The punctuation of Code 39. -/
def code39Marks :
    Text :=
  "-.$/+%"

/- Whether a character may stand in Code 39. -/
def isCode39
    (c : CodePoint) :
    Bool :=
  ('A' ≤ c && c ≤ 'Z') || Text.isAsciiDigit c ||
    code39Marks.contains c || Text.isBlank c

/- Whether all characters are digits, as many as the bounds say. -/
def digitsWithin
    (low : Nat)
    (high : Nat)
    (cs : Text) :
    Bool :=
  cs.all Text.isDecimalDigit && low ≤ cs.length && cs.length ≤ high

namespace Symbology

/- Whether a symbology takes these characters. -/
def takes
    (cs : Text) :
    Symbology → Bool
  | code128 => cs.all fun c => c.toNat < 0x80
  | code39 => cs.all isCode39
  | ean13 => digitsWithin 12 13 cs
  | ean8 => digitsWithin 7 8 cs
  | upcA => digitsWithin 11 12 cs
  | qr => Text.byteCount cs ≤ maxQrBytes
  | _ => true

/-
  Whether a value is a payload that a symbology accepts.  A QR code
  counts bytes, which a half of a surrogate pair does not have.
-/
def accepts
    (symbology : Symbology)
    (data : Value) :
    Except Fault Bool :=
  match symbology, data with
  | qr, .text s =>
      match Text.loneHalves? s with
      | some halves => .error (.notEncodable halves)
      | none => .ok (s != "" && takes s qr)
  | _, .text s => .ok (s != "" && symbology.takes s)
  | _, _ => .ok false

end Symbology

------------------------------------------------------------
-- Check Digits
------------------------------------------------------------

/-
  The weighted sum of digits given from the right; `weight` is
  that of the first, and the next has the other of 1 and 3.
-/
def weightedSum
    (weight : Nat) :
    List Nat → Nat
  | [] => 0
  | d :: ds => weight * d + weightedSum (4 - weight) ds

namespace Symbology

/- The payload length of a symbology with a check digit. -/
def dataLength? :
    Symbology → Option Nat
  | ean13 => some 12
  | upcA => some 11
  | ean8 => some 7
  | _ => none

/- The digit that completes a weighted sum. -/
def completing
    (ds : List Nat) :
    Nat :=
  (10 - weightedSum 3 ds.reverse % 10) % 10

/- The check digit of a payload that a symbology can hold. -/
def checkDigit?
    (symbology : Symbology)
    (data : Value) :
    Option Nat :=
  match symbology.dataLength?, data with
  | some length, .text s =>
      if s = "" ∨ length < s.length ∨ ¬ s.all Text.isAsciiDigit then none
      else some (completing (s.map Text.asciiDigitValue))
  | _, _ => none

end Symbology

------------------------------------------------------------
-- Payloads under a Key
------------------------------------------------------------

namespace Payload

/- Whether a value is a payload in the symbology of a key. -/
def isAccepted
    (key : Value)
    (data : Value) :
    Except Fault Bool :=
  match Symbology.ofValue? key with
  | some symbology => symbology.accepts data
  | none => .ok false

/- The check digit of a payload in the symbology of a key. -/
def checkDigit?
    (key : Value)
    (data : Value) :
    Option Nat := do
  let symbology ← Symbology.ofValue? key
  symbology.checkDigit? data

end Payload

end LabelPress

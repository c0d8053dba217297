import LabelPress.Text.Case
import LabelPress.Value.Basic

/-
  Barcode symbologies.

  Each symbology has a key, a display name, the command that
  starts it in ZPL and the identifier that selects it in EPL.

  Key definitions include:
    * `Symbology`
    * `Symbology.ofValue?`
    * `Symbology.keys`
-/

namespace LabelPress

/- A barcode symbology. -/
inductive Symbology where
  | code128
  | code39
  | ean13
  | ean8
  | upcA
  | upcE
  | codabar
  | code93
  | code11
  | msi
  | postnet
  | qr
  | dataMatrix
  | pdf417
  | maxiCode
  | aztec
  deriving DecidableEq

namespace Symbology

/- All symbologies. -/
def all :
    List Symbology :=
  [code128, code39, ean13, ean8, upcA, upcE, codabar, code93, code11,
    msi, postnet, qr, dataMatrix, pdf417, maxiCode, aztec]

/- The key of a symbology. -/
def key :
    Symbology → Text
  | code128 => "CODE128"
  | code39 => "CODE39"
  | ean13 => "EAN13"
  | ean8 => "EAN8"
  | upcA => "UPC_A"
  | upcE => "UPC_E"
  | codabar => "CODABAR"
  | code93 => "CODE93"
  | code11 => "CODE11"
  | msi => "MSI"
  | postnet => "POSTNET"
  | qr => "QR"
  | dataMatrix => "DATAMATRIX"
  | pdf417 => "PDF417"
  | maxiCode => "MAXICODE"
  | aztec => "AZTEC"

/- The display name of a symbology. -/
def name :
    Symbology → Text
  | code128 => "Code 128"
  | code39 => "Code 39"
  | ean13 => "EAN-13"
  | ean8 => "EAN-8"
  | upcA => "UPC-A"
  | upcE => "UPC-E"
  | codabar => "Codabar"
  | code93 => "Code 93"
  | code11 => "Code 11"
  | msi => "MSI"
  | postnet => "POSTNET"
  | qr => "QR Code"
  | dataMatrix => "Data Matrix"
  | pdf417 => "PDF417"
  | maxiCode => "MaxiCode"
  | aztec => "Aztec"

/- The ZPL command that starts a field of a symbology. -/
def zplCommand :
    Symbology → Text
  | code128 => "^BC"
  | code39 => "^B3"
  | ean13 => "^BE"
  | ean8 => "^B8"
  | upcA => "^BU"
  | upcE => "^B9"
  | codabar => "^BK"
  | code93 => "^BA"
  | code11 => "^B1"
  | msi => "^BM"
  | postnet => "^BP"
  | qr => "^BQ"
  | dataMatrix => "^BX"
  | pdf417 => "^B7"
  | maxiCode => "^BD"
  | aztec => "^BO"

/- The EPL identifier of a symbology. -/
def eplCode :
    Symbology → Text
  | code128 => "1"
  | code39 => "3"
  | ean13 => "E"
  | ean8 => "E8"
  | upcA => "UA"
  | upcE => "UE"
  | codabar => "K"
  | code93 => "A"
  | code11 => "1"
  | msi => "M"
  | postnet => "P"
  | qr => "Q"
  | dataMatrix => "X"
  | pdf417 => "7"
  | maxiCode => "D"
  | aztec => "O"

/- Whether a symbology fills an area. -/
def isTwoDimensional :
    Symbology → Bool
  | qr => true
  | dataMatrix => true
  | pdf417 => true
  | maxiCode => true
  | aztec => true
  | _ => false

/- The symbology of a key in any case, blanks around it dropped. -/
def ofText?
    (s : Text) :
    Option Symbology :=
  let wanted := Text.upper (Text.trim s)
  all.find? fun symbology => symbology.key == wanted

/- The symbology that a value names; only texts name one. -/
def ofValue? :
    Value → Option Symbology
  | .text s => ofText? s
  | _ => none

/- The keys in alphabetic order. -/
def keys :
    List Text :=
  (all.map key).mergeSort fun a b => !(b < a)

end Symbology

end LabelPress

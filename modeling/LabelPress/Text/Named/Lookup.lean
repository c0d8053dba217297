import LabelPress.Text.DecimalDigit
import LabelPress.Text.Named.Alphabets
import LabelPress.Text.Named.Pictures
import LabelPress.Text.Named.Scripts
import LabelPress.Text.Named.Symbols
import LabelPress.Text.Ranges

/-
  Characters by their names (Unicode 14).

  Most names are listed.  A syllable of Hangul is named by its
  sounds and an ideograph by its number, in capitals; all other
  names may be in small letters too.  Control characters and some
  others have further names.

  Key definitions include:
    * `Text.numberOfName?`
    * `CodePoint.named?`
-/

namespace LabelPress

namespace Text

------------------------------------------------------------
-- Parts of Names
------------------------------------------------------------

/- A text after what it begins with. -/
def after?
    (start : Text)
    (t : Text) :
    Option Text :=
  if start.isPrefixOf t then some (t.drop start.length) else none

/- The number of some hexadecimal digits. -/
def hexNumber?
    (ds : Text) :
    Option Nat := do
  let values ← ds.mapM hexValue?
  return values.foldl (fun n d => 16 * n + d) 0

------------------------------------------------------------
-- Hangul
------------------------------------------------------------

/- The sounds that a syllable may begin with. -/
def initialSounds :
    List Text :=
  ["G", "GG", "N", "D", "DD", "R", "M", "B", "BB", "S", "SS", "", "J",
    "JJ", "C", "K", "T", "P", "H"]

/- The vowels of a syllable. -/
def medialSounds :
    List Text :=
  ["A", "AE", "YA", "YAE", "EO", "E", "YEO", "YE", "O", "WA", "WAE",
    "OE", "YO", "U", "WEO", "WE", "WI", "YU", "EU", "YI", "I"]

/- The sounds that a syllable may end in. -/
def finalSounds :
    List Text :=
  ["", "G", "GG", "GS", "N", "NJ", "NH", "D", "L", "LG", "LM", "LB",
    "LS", "LT", "LP", "LH", "M", "B", "BS", "S", "SS", "NG", "J", "C",
    "K", "T", "P", "H"]

/- The number of the syllable with some sounds. -/
def syllable?
    (sounds : Text) :
    Option Nat :=
  initialSounds.zipIdx.findSome? fun (initial, i) =>
    medialSounds.zipIdx.findSome? fun (medial, j) => do
      let rest ← after? (initial ++ medial) sounds
      let k ← finalSounds.idxOf? rest
      return 0xAC00 + (i * 21 + j) * 28 + k

------------------------------------------------------------
-- Characters Named by their Numbers
------------------------------------------------------------

/- The unified ideographs. -/
def ideographRanges :
    List (Nat × Nat) :=
  [
    (0x3400, 0x4DBF), (0x4E00, 0x9FFF), (0x20000, 0x2A6DF),
    (0x2A700, 0x2B738), (0x2B740, 0x2B81D), (0x2B820, 0x2CEA1),
    (0x2CEB0, 0x2EBE0), (0x30000, 0x3134A)]

/- The number of an ideograph, in four or five digits. -/
def ideograph?
    (ds : Text) :
    Option Nat := do
  let n ← hexNumber? ds
  if (ds.length = 4 ∨ ds.length = 5) ∧ ¬ ds.any CodePoint.isLower ∧
      inRanges ideographRanges n then
    some n
  else none

/- Ranges of characters with a name before their numbers. -/
def numberedRanges :
    List (Text × Nat × Nat) :=
  [("CJK COMPATIBILITY IDEOGRAPH-", 0xF900, 0xFA6D),
    ("CJK COMPATIBILITY IDEOGRAPH-", 0xFA70, 0xFAD9),
    ("CJK COMPATIBILITY IDEOGRAPH-", 0x2F800, 0x2FA1D),
    ("KHITAN SMALL SCRIPT CHARACTER-", 0x18B00, 0x18CD5),
    ("NUSHU CHARACTER-", 0x1B170, 0x1B2FB)]

/- The number in a name that ends in it. -/
def numbered?
    (name : Text) :
    Option Nat :=
  numberedRanges.findSome? fun (start, first, last) => do
    let ds ← after? start name
    let n ← hexNumber? ds
    let width := if first < 0x10000 then 4 else 5
    if ds.length = width ∧ first ≤ n ∧ n ≤ last then some n else none

/- The number of a variation selector by its short name. -/
def variationSelector?
    (name : Text) :
    Option Nat := do
  let ds ← after? "VS" name
  let n ← (List.range 256).find? fun n => digits 10 (n + 1) == ds
  return if n < 16 then 0xFE00 + n else 0xE0100 + (n - 16)

------------------------------------------------------------
-- Listed Names
------------------------------------------------------------

/- Further names of characters. -/
def furtherNames :
    List (Nat × String) :=
  [
    (0x0, "NULL"), (0x0, "NUL"), (0x1, "START OF HEADING"), (0x1, "SOH"),
    (0x2, "START OF TEXT"), (0x2, "STX"), (0x3, "END OF TEXT"), (0x3, "ETX"),
    (0x4, "END OF TRANSMISSION"), (0x4, "EOT"), (0x5, "ENQUIRY"),
    (0x5, "ENQ"), (0x6, "ACKNOWLEDGE"), (0x6, "ACK"), (0x7, "ALERT"),
    (0x7, "BEL"), (0x8, "BACKSPACE"), (0x8, "BS"),
    (0x9, "CHARACTER TABULATION"), (0x9, "HORIZONTAL TABULATION"),
    (0x9, "HT"), (0x9, "TAB"), (0xA, "LINE FEED"), (0xA, "NEW LINE"),
    (0xA, "END OF LINE"), (0xA, "LF"), (0xA, "NL"), (0xA, "EOL"),
    (0xB, "LINE TABULATION"), (0xB, "VERTICAL TABULATION"), (0xB, "VT"),
    (0xC, "FORM FEED"), (0xC, "FF"), (0xD, "CARRIAGE RETURN"), (0xD, "CR"),
    (0xE, "SHIFT OUT"), (0xE, "LOCKING-SHIFT ONE"), (0xE, "SO"),
    (0xF, "SHIFT IN"), (0xF, "LOCKING-SHIFT ZERO"), (0xF, "SI"),
    (0x10, "DATA LINK ESCAPE"), (0x10, "DLE"), (0x11, "DEVICE CONTROL ONE"),
    (0x11, "DC1"), (0x12, "DEVICE CONTROL TWO"), (0x12, "DC2"),
    (0x13, "DEVICE CONTROL THREE"), (0x13, "DC3"),
    (0x14, "DEVICE CONTROL FOUR"), (0x14, "DC4"),
    (0x15, "NEGATIVE ACKNOWLEDGE"), (0x15, "NAK"), (0x16, "SYNCHRONOUS IDLE"),
    (0x16, "SYN"), (0x17, "END OF TRANSMISSION BLOCK"), (0x17, "ETB"),
    (0x18, "CANCEL"), (0x18, "CAN"), (0x19, "END OF MEDIUM"), (0x19, "EOM"),
    (0x1A, "SUBSTITUTE"), (0x1A, "SUB"), (0x1B, "ESCAPE"), (0x1B, "ESC"),
    (0x1C, "INFORMATION SEPARATOR FOUR"), (0x1C, "FILE SEPARATOR"),
    (0x1C, "FS"), (0x1D, "INFORMATION SEPARATOR THREE"),
    (0x1D, "GROUP SEPARATOR"), (0x1D, "GS"),
    (0x1E, "INFORMATION SEPARATOR TWO"), (0x1E, "RECORD SEPARATOR"),
    (0x1E, "RS"), (0x1F, "INFORMATION SEPARATOR ONE"),
    (0x1F, "UNIT SEPARATOR"), (0x1F, "US"), (0x20, "SP"), (0x7F, "DELETE"),
    (0x7F, "DEL"), (0x80, "PADDING CHARACTER"), (0x80, "PAD"),
    (0x81, "HIGH OCTET PRESET"), (0x81, "HOP"),
    (0x82, "BREAK PERMITTED HERE"), (0x82, "BPH"), (0x83, "NO BREAK HERE"),
    (0x83, "NBH"), (0x84, "INDEX"), (0x84, "IND"), (0x85, "NEXT LINE"),
    (0x85, "NEL"), (0x86, "START OF SELECTED AREA"), (0x86, "SSA"),
    (0x87, "END OF SELECTED AREA"), (0x87, "ESA"),
    (0x88, "CHARACTER TABULATION SET"), (0x88, "HORIZONTAL TABULATION SET"),
    (0x88, "HTS"), (0x89, "CHARACTER TABULATION WITH JUSTIFICATION"),
    (0x89, "HORIZONTAL TABULATION WITH JUSTIFICATION"), (0x89, "HTJ"),
    (0x8A, "LINE TABULATION SET"), (0x8A, "VERTICAL TABULATION SET"),
    (0x8A, "VTS"), (0x8B, "PARTIAL LINE FORWARD"),
    (0x8B, "PARTIAL LINE DOWN"), (0x8B, "PLD"),
    (0x8C, "PARTIAL LINE BACKWARD"), (0x8C, "PARTIAL LINE UP"), (0x8C, "PLU"),
    (0x8D, "REVERSE LINE FEED"), (0x8D, "REVERSE INDEX"), (0x8D, "RI"),
    (0x8E, "SINGLE SHIFT TWO"), (0x8E, "SINGLE-SHIFT-2"), (0x8E, "SS2"),
    (0x8F, "SINGLE SHIFT THREE"), (0x8F, "SINGLE-SHIFT-3"), (0x8F, "SS3"),
    (0x90, "DEVICE CONTROL STRING"), (0x90, "DCS"), (0x91, "PRIVATE USE ONE"),
    (0x91, "PRIVATE USE-1"), (0x91, "PU1"), (0x92, "PRIVATE USE TWO"),
    (0x92, "PRIVATE USE-2"), (0x92, "PU2"), (0x93, "SET TRANSMIT STATE"),
    (0x93, "STS"), (0x94, "CANCEL CHARACTER"), (0x94, "CCH"),
    (0x95, "MESSAGE WAITING"), (0x95, "MW"), (0x96, "START OF GUARDED AREA"),
    (0x96, "START OF PROTECTED AREA"), (0x96, "SPA"),
    (0x97, "END OF GUARDED AREA"), (0x97, "END OF PROTECTED AREA"),
    (0x97, "EPA"), (0x98, "START OF STRING"), (0x98, "SOS"),
    (0x99, "SINGLE GRAPHIC CHARACTER INTRODUCER"), (0x99, "SGC"),
    (0x9A, "SINGLE CHARACTER INTRODUCER"), (0x9A, "SCI"),
    (0x9B, "CONTROL SEQUENCE INTRODUCER"), (0x9B, "CSI"),
    (0x9C, "STRING TERMINATOR"), (0x9C, "ST"),
    (0x9D, "OPERATING SYSTEM COMMAND"), (0x9D, "OSC"),
    (0x9E, "PRIVACY MESSAGE"), (0x9E, "PM"),
    (0x9F, "APPLICATION PROGRAM COMMAND"), (0x9F, "APC"), (0xA0, "NBSP"),
    (0xAD, "SHY"), (0x1A2, "LATIN CAPITAL LETTER GHA"),
    (0x1A3, "LATIN SMALL LETTER GHA"), (0x34F, "CGJ"), (0x61C, "ALM"),
    (0x709, "SYRIAC SUBLINEAR COLON SKEWED LEFT"),
    (0xCDE, "KANNADA LETTER LLLA"), (0xE9D, "LAO LETTER FO FON"),
    (0xE9F, "LAO LETTER FO FAY"), (0xEA3, "LAO LETTER RO"),
    (0xEA5, "LAO LETTER LO"), (0xFD0, "TIBETAN MARK BKA- SHOG GI MGO RGYAN"),
    (0x11EC, "HANGUL JONGSEONG YESIEUNG-KIYEOK"),
    (0x11ED, "HANGUL JONGSEONG YESIEUNG-SSANGKIYEOK"),
    (0x11EE, "HANGUL JONGSEONG SSANGYESIEUNG"),
    (0x11EF, "HANGUL JONGSEONG YESIEUNG-KHIEUKH"), (0x180B, "FVS1"),
    (0x180C, "FVS2"), (0x180D, "FVS3"), (0x180E, "MVS"), (0x180F, "FVS4"),
    (0x200B, "ZWSP"), (0x200C, "ZWNJ"), (0x200D, "ZWJ"), (0x200E, "LRM"),
    (0x200F, "RLM"), (0x202A, "LRE"), (0x202B, "RLE"), (0x202C, "PDF"),
    (0x202D, "LRO"), (0x202E, "RLO"), (0x202F, "NNBSP"), (0x205F, "MMSP"),
    (0x2060, "WJ"), (0x2066, "LRI"), (0x2067, "RLI"), (0x2068, "FSI"),
    (0x2069, "PDI"), (0x2118, "WEIERSTRASS ELLIPTIC FUNCTION"),
    (0x2448, "MICR ON US SYMBOL"), (0x2449, "MICR DASH SYMBOL"),
    (0x2B7A, "LEFTWARDS TRIANGLE-HEADED ARROW WITH DOUBLE VERTICAL STROKE"),
    (0x2B7C, "RIGHTWARDS TRIANGLE-HEADED ARROW WITH DOUBLE VERTICAL STROKE"),
    (0xA015, "YI SYLLABLE ITERATION MARK"),
    (0xAA6E, "MYANMAR LETTER KHAMTI LLA"),
    (0xFE18, "PRESENTATION FORM FOR VERTICAL RIGHT WHITE LENTICULAR BRACKET"),
    (0xFEFF, "BYTE ORDER MARK"), (0xFEFF, "BOM"), (0xFEFF, "ZWNBSP"),
    (0x122D4, "CUNEIFORM SIGN NU11 TENU"),
    (0x122D5, "CUNEIFORM SIGN NU11 OVER NU11 BUR OVER BUR"),
    (0x16E56, "MEDEFAIDRIN CAPITAL LETTER H"),
    (0x16E57, "MEDEFAIDRIN CAPITAL LETTER NG"),
    (0x16E76, "MEDEFAIDRIN SMALL LETTER H"),
    (0x16E77, "MEDEFAIDRIN SMALL LETTER NG"),
    (0x1D0C5, "BYZANTINE MUSICAL SYMBOL FTHORA SKLIRON CHROMA VASIS"),
    (0x1B001, "HENTAIGANA LETTER E-1")]

/- All runs of named characters. -/
def nameRuns :
    List NameRun :=
  alphabetNames ++ symbolNames ++ scriptNames ++ pictureNames

/- The number of a listed name. -/
def listed?
    (name : Text) :
    Option Nat :=
  match furtherNames.find? fun entry => ofString entry.2 == name with
  | some (n, _) => some n
  | none =>
      let words := partsBetween ' ' name
      nameRuns.findSome? fun r => r.find? words

/- The number of the character that has a name. -/
def numberOfName?
    (name : Text) :
    Option Nat :=
  match after? "HANGUL SYLLABLE " name with
  | some sounds => syllable? sounds
  | none =>
      match after? "CJK UNIFIED IDEOGRAPH-" name with
      | some ds => ideograph? ds
      | none =>
          let name := name.map CodePoint.toUpper
          (numbered? name).or ((variationSelector? name).or (listed? name))

end Text

/- The character that has a name. -/
def CodePoint.named?
    (name : Text) :
    Option CodePoint :=
  (Text.numberOfName? name).map .ofNat

end LabelPress

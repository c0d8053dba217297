import LabelPress.Text.Quoted
import LabelPress.Text.Utf8

/-
  The causes of failure, and their wording.

  Every operation that can fail answers with one of these causes.
  A cause holds what was at fault, and `Fault.message` turns it
  into a sentence.

  Key definitions include:
    * `JsonProblem`, what breaks a JSON text
    * `DocumentProblem`, what breaks a label document
    * `FileProblem`, what keeps a file from being read
    * `Fault`
    * `Fault.message`
-/

namespace LabelPress

------------------------------------------------------------
-- JSON Texts
------------------------------------------------------------

/- What breaks a JSON text. -/
inductive JsonProblem where
  | byteOrderMark
  | expectingValue
  | expectingName
  | expectingColon
  | expectingComma
  | extraData
  | unterminatedString
  | controlCharacter
  | badEscape
  | badUnicodeEscape
  deriving DecidableEq

/- The wording of a JSON problem. -/
def JsonProblem.message :
    JsonProblem → Text
  | byteOrderMark => "Unexpected UTF-8 BOM (decode using utf-8-sig)"
  | expectingValue => "Expecting value"
  | expectingName => "Expecting property name enclosed in double quotes"
  | expectingColon => "Expecting ':' delimiter"
  | expectingComma => "Expecting ',' delimiter"
  | extraData => "Extra data"
  | unterminatedString => "Unterminated string starting at"
  | controlCharacter => "Invalid control character at"
  | badEscape => "Invalid \\escape"
  | badUnicodeEscape => "Invalid \\uXXXX escape"

------------------------------------------------------------
-- Documents and Files
------------------------------------------------------------

/- What breaks a label document at some place. -/
inductive DocumentProblem where
  | wrongKind (value : Text) (kinds : List Text)
  | missingKey (key : Text)
  | belowZero (value : Text)
  deriving DecidableEq

/- The wording of a document problem. -/
def DocumentProblem.message :
    DocumentProblem → Text
  | wrongKind value kinds =>
      value ++ " is not of type " ++
        Text.intercalate ", " (kinds.map Text.quoted)
  | missingKey key => Text.quoted key ++ " is a required property"
  | belowZero value => value ++ " is less than the minimum of 0"

/- What keeps a file from being read or written. -/
inductive FileProblem where
  | missing
  | directory
  | notDirectory
  | nameTooLong
  deriving DecidableEq

/- The wording of a file problem. -/
def FileProblem.message :
    FileProblem → Text
  | missing => "[Errno 2] No such file or directory"
  | directory => "[Errno 21] Is a directory"
  | notDirectory => "[Errno 20] Not a directory"
  | nameTooLong => "[Errno 36] File name too long"

------------------------------------------------------------
-- Faults
------------------------------------------------------------

/- The cause of a failure. -/
inductive Fault where
  /- a text that is no number -/
  | notNumeric (text : Text)
  /- an integer beyond the range of doubles -/
  | integerTooLarge
  /- a width or a number of places beyond what can be asked for -/
  | widthTooLarge
  /- a value of a kind that the operation does not take -/
  | wrongKind
  /- a look-up in a value that has no such part -/
  | missingPart
  /- a length unit that is not known -/
  | unknownUnit (given : Text) (supported : List Text)
  /- a resolution that is not above zero -/
  | resolutionNotPositive (given : Text)
  /- a printer language that is not known -/
  | unsupportedProtocol (given : Text) (available : List Text)
  /- a document given as something other than an object or text -/
  | unsupportedPayload
  /- a set of variables that is not known -/
  | unknownPreset (given : Text) (available : List Text)
  /- a variable name that is no identifier -/
  | invalidVariableName (given : Text)
  /- a variable type that is not known -/
  | unknownVariableType (given : Text)
  /- a pattern that cannot be read -/
  | invalidPattern
  /- a count beyond what a pattern can repeat -/
  | countTooLarge
  /- flags of a pattern that name both kinds of classes -/
  | flagsAtOdds
  /- a text beyond what can be held -/
  | textTooLong
  /- a JSON text that cannot be read -/
  | malformedJson
      (problem : JsonProblem)
      (line : Nat)
      (column : Nat)
      (offset : Nat)
  /- an integer literal with too many digits -/
  | tooManyDigits (limit : Nat) (count : Nat)
  /- an integer with too many digits to be written -/
  | numeralTooLong (limit : Nat)
  /- a value, a JSON text or a pattern too deep in itself -/
  | nestedTooDeep
  /- a document of the wrong shape -/
  | invalidDocument (path : List Text) (problem : DocumentProblem)
  /- a file that cannot be read or written -/
  | file (problem : FileProblem) (name : Text)
  /- a text with halves of surrogate pairs where bytes are needed -/
  | notEncodable (halves : Text.LoneHalves)
  /- bytes of a file that are no text -/
  | notDecodable (bytes : Text.StrayBytes)
  /- a character that the output cannot hold -/
  | notPrintable (c : CodePoint) (position : Nat)
  /- a file name with a null character -/
  | nullInName
  /- a variables file that holds no object -/
  | variablesNotObject
  deriving DecidableEq

/- The wording of a fault. -/
def Fault.message :
    Fault → Text
  | notNumeric text =>
      "could not convert string to float: " ++ Text.quoted text
  | integerTooLarge => "int too large to convert to float"
  | widthTooLarge => "width too large"
  | wrongKind => "unsupported kind of value"
  | missingPart => "value has no such part"
  | unknownUnit given supported =>
      "Unknown unit '" ++ given ++ "'. Supported units: " ++
        Text.intercalate ", " supported
  | resolutionNotPositive given => "dpi must be positive, got " ++ given
  | unsupportedProtocol given available =>
      "Unsupported protocol '" ++ given ++ "'. Available protocols: " ++
        Text.intercalate ", " available
  | unsupportedPayload => "Unsupported payload type"
  | unknownPreset given available =>
      "Unknown preset '" ++ given ++ "'. Available presets: " ++
        Text.intercalate ", " available
  | invalidVariableName given => "Invalid variable name: " ++ given
  | unknownVariableType given => given ++ " is not a valid VariableType"
  | invalidPattern => "invalid pattern"
  | countTooLarge => "the repetition number is too large"
  | flagsAtOdds => "ASCII and UNICODE flags are incompatible"
  | textTooLong => ""
  | malformedJson problem line column offset =>
      problem.message ++ ": line " ++ toString line ++ " column " ++
        toString column ++ " (char " ++ toString offset ++ ")"
  | tooManyDigits limit count =>
      "Exceeds the limit (" ++ toString limit ++
        " digits) for integer string conversion: value has " ++
        toString count ++
        " digits; use sys.set_int_max_str_digits() to increase the limit"
  | numeralTooLong limit =>
      "Exceeds the limit (" ++ toString limit ++
        " digits) for integer string conversion; use " ++
        "sys.set_int_max_str_digits() to increase the limit"
  | nestedTooDeep => "maximum recursion depth exceeded"
  | invalidDocument path problem =>
      let place : Text :=
        if path = [] then "<root>" else Text.intercalate "/" path
      "Invalid label document at " ++ place ++ ": " ++ problem.message
  | file problem name => problem.message ++ ": " ++ Text.quoted name
  | notEncodable h =>
      let first := toString h.position
      let subject :=
        if h.count = 1 then
          " '" ++ Text.numbered h.first ++
            "' in position " ++ first
        else
          "s in position " ++ first ++ "-" ++
            toString (h.position + h.count - 1)
      "'utf-8' codec can't encode character" ++ subject ++
        ": surrogates not allowed"
  | notDecodable b =>
      let first := toString b.position
      let subject :=
        if b.count = 1 then
          " 0x" ++ Text.hexDigits 2 b.first ++ " in position " ++ first
        else
          "s in position " ++ first ++ "-" ++
            toString (b.position + b.count - 1)
      "'utf-8' codec can't decode byte" ++ subject ++ ": " ++
        b.problem.message
  | notPrintable c position =>
      "can't encode character '" ++ Text.numbered c.toNat ++
        "' in position " ++ toString position
  | nullInName => "embedded null byte"
  | variablesNotObject => "variables file must contain a JSON object"

end LabelPress

import LabelPress.Calendar.Inspected
import LabelPress.Double.Printer
import LabelPress.Fault
import LabelPress.Machine
import LabelPress.Value.Basic

/-
  Values as text.

  Shown on its own, a text is itself and a day or moment has its
  ISO form.  Inside a sequence or an object, and in messages, a
  text is quoted and a day or moment is spelled out by its parts.
  A record shows its kind and its fields.

  Not every value can be shown.  The numeral of an integer must
  not be too long, and values must not lie deeper in each other
  than the levels that are left.  Both are checked first, and the
  first fault from the left counts.  Nor can every value be the
  key of a look-up.

  Key definitions include:
    * `Value.toText`
    * `Value.inspected`
    * `Value.checkInspected`, `Value.checkShown`
    * `Value.checkKey`, `Value.checkLookedUp`
-/

namespace LabelPress

------------------------------------------------------------
-- Values
------------------------------------------------------------

namespace Value

/- The spelling of a truth value. -/
def boolText
    (b : Bool) :
    Text :=
  if b then "True" else "False"

/- The items of a tuple; a single one is followed by a comma. -/
def tupleText
    (parts : List Text) :
    Text :=
  match parts with
  | [part] => "(" ++ part ++ ",)"
  | parts => bracketed "(" ")" parts

/- A field of a record. -/
def recordField
    (key : Text)
    (shown : Text) :
    Text :=
  key ++ "=" ++ shown

/- What a record shows before its fields: the family of a value. -/
def recordHead :
    RecordKind → List Text
  | .bound f =>
      [recordField "kind"
        ("<VariableKind." ++ f.symbol ++ ": " ++ Text.quoted f.name ++ ">")]
  | _ => []

mutual

/- A value as it shows inside others and in messages. -/
def inspected :
    Value → Text
  | .null => "None"
  | .bool b => boolText b
  | .int n => toString n
  | .double x => x.toText
  | .text s => Text.quoted s
  | .list items => bracketed "[" "]" (inspectedItems items)
  | .tuple items => tupleText (inspectedItems items)
  | .object fields => bracketed "\x7b" "\x7d" (inspectedFields fields)
  | .date d => d.inspected
  | .moment m => m.inspected
  | .record kind fields =>
      bracketed (kind.name ++ "(") ")"
        (recordHead kind ++ inspectedRecord fields)

/- The items of a sequence as they show inside it. -/
def inspectedItems :
    List Value → List Text
  | [] => []
  | v :: vs => inspected v :: inspectedItems vs

/- The fields of an object as they show inside it. -/
def inspectedFields :
    List (Text × Value) → List Text
  | [] => []
  | (k, v) :: rest =>
      (Text.quoted k ++ ": " ++ inspected v) :: inspectedFields rest

/- The fields of a record as they show inside it. -/
def inspectedRecord :
    List (Text × Value) → List Text
  | [] => []
  | (k, v) :: rest => recordField k (inspected v) :: inspectedRecord rest

end

/- A value as it shows on its own. -/
def toText :
    Value → Text
  | .text s => s
  | .date d => d.isoText
  | .moment m => m.isoTextWith " "
  | v => v.inspected

/- A value as it is printed into a field; null prints nothing. -/
def fieldText
    (v : Value) :
    Text :=
  if v.isNull then "" else v.toText

------------------------------------------------------------
-- Values That Can Be Shown
------------------------------------------------------------

/- Check that the numeral of an integer is not too long. -/
def checkNumeral
    (n : Int) :
    Except Fault Unit :=
  if Text.maxIntegerDigits < (Text.digits 10 n.natAbs).length then
    .error (.numeralTooLong Text.maxIntegerDigits)
  else .ok ()

/- The levels of a record besides the one that its fields take. -/
def recordLevels :
    Nat :=
  2

/- The levels that a record and its head must have. -/
def headLevels :
    RecordKind → Nat
  | .bound _ => 6
  | _ => 3

mutual

/- Check that a value can be spelled out in some levels. -/
def checkInspected :
    Nat → Value → Except Fault Unit
  | _, .int n => checkNumeral n
  | levels, .list items => checkItems levels items
  | levels, .tuple items => checkItems levels items
  | levels, .object fields => checkFields levels fields
  | levels, .record kind fields =>
      if levels < headLevels kind then .error .nestedTooDeep
      else checkFields (levels - recordLevels) fields
  | _, _ => .ok ()

/- Check the items of a sequence, one level further in. -/
def checkItems :
    Nat → List Value → Except Fault Unit
  | _, [] => .ok ()
  | 0, _ :: _ => .error .nestedTooDeep
  | levels + 1, v :: vs => do
      checkInspected levels v
      checkItems (levels + 1) vs

/- Check the fields of an object, one level further in. -/
def checkFields :
    Nat → List (Text × Value) → Except Fault Unit
  | _, [] => .ok ()
  | 0, _ :: _ => .error .nestedTooDeep
  | levels + 1, (_, v) :: rest => do
      checkInspected levels v
      checkFields (levels + 1) rest

end

/- Check that a value can be shown at a site. -/
def checkShown
    [Machine]
    (site : Site)
    (v : Value) :
    Except Fault Unit :=
  v.checkInspected (Machine.levels site)

------------------------------------------------------------
-- Keys
------------------------------------------------------------

/- The levels that a record takes as a key. -/
def keyLevels :
    Nat :=
  2

/- The levels that a record and its head must have as a key. -/
def keyHeadLevels :
    RecordKind → Nat
  | .bound _ => 4
  | _ => 2

mutual

/-
  Check that a value can be a key in some levels.  Lists and objects
  cannot, and only records are followed level by level.
-/
def checkKey :
    Nat → Value → Except Fault Unit
  | _, .list _ => .error .wrongKind
  | _, .object _ => .error .wrongKind
  | levels, .tuple items => checkKeyItems levels items
  | levels, .record kind fields =>
      if levels < keyHeadLevels kind then .error .nestedTooDeep
      else checkKeyFields (levels - keyLevels) fields
  | _, _ => .ok ()

/- Check the items of a tuple. -/
def checkKeyItems :
    Nat → List Value → Except Fault Unit
  | _, [] => .ok ()
  | levels, v :: vs => do
      checkKey levels v
      checkKeyItems levels vs

/- Check the fields of a record. -/
def checkKeyFields :
    Nat → List (Text × Value) → Except Fault Unit
  | _, [] => .ok ()
  | levels, (_, v) :: rest => do
      checkKey levels v
      checkKeyFields levels rest

end

/- Check that a value can be looked up at a site. -/
def checkLookedUp
    [Machine]
    (site : Site)
    (v : Value) :
    Except Fault Unit :=
  v.checkKey (Machine.levels site)

end Value

end LabelPress

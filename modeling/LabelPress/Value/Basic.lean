import LabelPress.Calendar.Date
import LabelPress.Fault
import LabelPress.Text.Numeral
import LabelPress.Value.RecordKind

/-
  Values of label data.

  Documents, options and variables carry values whose kind is
  known only when they are looked at.  The fields of an object
  keep their order, and no key occurs twice.  A record has the
  fields of its kind, and is no object.

  Key definitions include:
    * `Value`
    * `Value.truthy`, whether a value counts as present
    * `Value.kindName`
    * `Fields.get?` and `Fields.set`
    * `Value.items?`, what a value holds when it is walked
-/

namespace LabelPress

/- A value of label data. -/
inductive Value where
  | null
  | bool (b : Bool)
  | int (n : Int)
  | double (x : Double)
  | text (s : Text)
  | list (items : List Value)
  | tuple (items : List Value)
  | object (fields : List (Text × Value))
  | date (d : Date)
  | moment (m : Moment)
  | record (kind : RecordKind) (fields : List (Text × Value))

instance : Inhabited Value :=
  ⟨.null⟩

/- The fields of an object, in order. -/
abbrev Fields :=
  List (Text × Value)

------------------------------------------------------------
-- Fields
------------------------------------------------------------

namespace Fields

/- The value under a key. -/
def get?
    (fields : Fields)
    (key : Text) :
    Option Value :=
  fields.lookup key

/-
  Put a value under a key.  A key that is present keeps its
  place; a new key goes to the end.
-/
def set
    (fields : Fields)
    (key : Text)
    (value : Value) :
    Fields :=
  match fields with
  | [] => [(key, value)]
  | (k, v) :: rest =>
      if k = key then (k, value) :: rest else (k, v) :: set rest key value

/- Put several fields in order. -/
def setAll
    (fields : Fields)
    (more : Fields) :
    Fields :=
  more.foldl (fun fs (k, v) => set fs k v) fields

end Fields

namespace Value

------------------------------------------------------------
-- Looking at a Value
------------------------------------------------------------

/- The value under a key, null for an absent one. -/
def fieldOf
    (fields : Fields)
    (key : Text) :
    Value :=
  (fields.get? key).getD .null

/- Whether a value counts as present. -/
def truthy :
    Value → Bool
  | .null => false
  | .bool b => b
  | .int n => n != 0
  | .double x => !x.isZero
  | .text s => s != ""
  | .list items => !items.isEmpty
  | .tuple items => !items.isEmpty
  | .object fields => !fields.isEmpty
  | .date _ => true
  | .moment _ => true
  | .record .. => true

/- Whether a value is null. -/
def isNull :
    Value → Bool
  | .null => true
  | _ => false

/- Whether a value is the empty text. -/
def isEmptyText :
    Value → Bool
  | .text s => s == ""
  | _ => false

/- The name of a value's kind. -/
def kindName :
    Value → Text
  | .null => "NoneType"
  | .bool _ => "bool"
  | .int _ => "int"
  | .double _ => "float"
  | .text _ => "str"
  | .list _ => "list"
  | .tuple _ => "tuple"
  | .object _ => "dict"
  | .date _ => "date"
  | .moment _ => "datetime"
  | .record kind _ => kind.name

/-
  What a value holds when it is walked: the items of a sequence,
  the keys of an object, the characters of a text.
-/
def items? :
    Value → Option (List Value)
  | .list items => some items
  | .tuple items => some items
  | .object fields => some (fields.map fun (k, _) => .text k)
  | .text s => some (s.map fun c => .text [c])
  | _ => none

end Value

end LabelPress

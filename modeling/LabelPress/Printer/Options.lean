import LabelPress.Outcome
import LabelPress.Printer.Protocol
import LabelPress.Units

/-
  Options of the printer languages.

  Every language has a scale, that is a resolution and the unit
  of the canvas, and a few settings of its own.  Options read
  from an object fall back to defaults with a notice; options
  given field by field must have a usable unit and resolution.

  Key definitions include:
    * `Scale`, with `Scale.dots`
    * `ZplOptions`, `EplOptions`, `DplOptions`
    * `ZplOptions.ofArguments`, ..., `DplOptions.ofArguments`
    * `PrinterOptions.toValue`, `PrinterOptions.ofValue?`
    * `ZplOptions.ofSource`, ..., `DplOptions.ofSource`
-/

namespace LabelPress

variable [Machine]

------------------------------------------------------------
-- Scale
------------------------------------------------------------

/-
  The resolution of a printer and the unit of the canvas.  The
  resolution keeps the value it was given as.
-/
structure Scale where
  dpi : Value
  resolution : Double
  units : LengthUnit
  accepted : resolutionOf dpi = .ok resolution

namespace Scale

/- The scale of a resolution that is accepted. -/
def make
    (dpi : Value)
    (units : LengthUnit) :
    Except Fault Scale :=
  match h : resolutionOf dpi with
  | .ok resolution => .ok ⟨dpi, resolution, units, h⟩
  | .error f => .error f

/- A number of canvas units in whole dots. -/
def wholeDots
    (s : Scale)
    (x : Double) :
    Int :=
  (s.units.toDots s.resolution x).halfAway

/- A value in canvas units in whole dots. -/
def dots
    (s : Scale)
    (v : Value) :
    Except Fault Int := do
  let x ← v.doubleOrNaN
  return s.wholeDots x

end Scale

------------------------------------------------------------
-- The Options of Each Language
------------------------------------------------------------

/- The options of ZPL. -/
structure ZplOptions where
  scale : Scale
  printSpeed : Value
  density : Value
  tearOff : Value

/- The options of EPL. -/
structure EplOptions where
  scale : Scale
  speed : Value
  density : Value
  copies : Value
  gap : Value

/- The options of DPL. -/
structure DplOptions where
  scale : Scale
  quantity : Value

/- The options of some language. -/
inductive PrinterOptions where
  | zpl (o : ZplOptions)
  | epl (o : EplOptions)
  | dpl (o : DplOptions)

/- What options are given as. -/
inductive OptionSource where
  | built (o : PrinterOptions)
  | data (v : Value)

------------------------------------------------------------
-- Reading Objects
------------------------------------------------------------

namespace OptionFields

/- The value under a key, or else under its second spelling. -/
def named
    (fields : Fields)
    (key : Text)
    (second : Text) :
    Value :=
  match fields.get? key with
  | some v => v
  | none => Value.fieldOf fields second

/- Keep a default in place of an unusable value, with a notice. -/
def ignoring
    {α : Type}
    (name : Text)
    (given : Value)
    (default : α)
    (used : Text) :
    Outcome α := do
  Outcome.noteShowing (given.checkShown .optionNotice)
    (.optionIgnored name given.inspected used)
  return default

/- An integer setting; what is not finite keeps the default. -/
def whole
    (fields : Fields)
    (key : Text)
    (second : Text)
    (default : Int) :
    Outcome Value :=
  let given := named fields key second
  if given.isNull then .ok (.int default)
  else
    match given.toDouble with
    | .ok x => .ok (.int (if x.isFinite then x.halfAway else default))
    | .error .integerTooLarge => .fail .integerTooLarge
    | .error _ => ignoring key given (.int default) (toString default)

/- The resolution, which must be finite and above zero. -/
def resolution
    (fields : Fields) :
    Outcome Double :=
  let given := Value.fieldOf fields "dpi"
  let refuse :=
    ignoring "dpi" given defaultResolution defaultResolution.toText
  if given.isNull then .ok defaultResolution
  else
    match given.toDouble with
    | .ok x => if x.isFinite && Double.lt 0 x then .ok x else refuse
    | .error .integerTooLarge => .fail .integerTooLarge
    | .error _ => refuse

/- The unit of the canvas. -/
def units
    (fields : Fields) :
    Outcome LengthUnit :=
  let given := Value.fieldOf fields "units"
  if given.isNull then .ok .dots
  else
    match LengthUnit.ofValue given with
    | .ok u => .ok u
    | .error f =>
        if f = .nestedTooDeep then .fail f
        else
          ignoring "units" given .dots
            (Text.quoted LengthUnit.dots.name)

/- The fields of a value; an absent value has none. -/
def ofValue
    (v : Value) :
    Except Fault Fields :=
  if v.truthy then
    match v with
    | .object fields => .ok fields
    | _ => .error .missingPart
  else .ok []

end OptionFields

------------------------------------------------------------
-- Arguments
------------------------------------------------------------

namespace OptionArguments

/- Refuse arguments that have no place. -/
def checkKeys
    (known : List Text)
    (arguments : Fields) :
    Except Fault Unit :=
  if arguments.all fun (key, _) => known.contains key then .ok ()
  else .error .wrongKind

/- The argument of a name, or its default. -/
def named
    (arguments : Fields)
    (key : Text)
    (default : Value) :
    Value :=
  (arguments.get? key).getD default

/- The scale of the arguments. -/
def scale
    (arguments : Fields) :
    Except Fault Scale := do
  let units ← LengthUnit.ofValue (named arguments "units" (.text "dots"))
  Scale.make (named arguments "dpi" (.double defaultResolution)) units

end OptionArguments

/- ZPL options field by field. -/
def ZplOptions.ofArguments
    (arguments : Fields) :
    Except Fault ZplOptions := do
  OptionArguments.checkKeys
    ["dpi", "units", "print_speed", "density", "tear_off"] arguments
  let scale ← OptionArguments.scale arguments
  return {
    scale
    printSpeed := OptionArguments.named arguments "print_speed" (.int 4)
    density := OptionArguments.named arguments "density" (.int 8)
    tearOff := OptionArguments.named arguments "tear_off" (.int 0)
  }

/- EPL options field by field. -/
def EplOptions.ofArguments
    (arguments : Fields) :
    Except Fault EplOptions := do
  OptionArguments.checkKeys
    ["dpi", "units", "speed", "density", "copies", "gap"] arguments
  let scale ← OptionArguments.scale arguments
  return {
    scale
    speed := OptionArguments.named arguments "speed" (.int 4)
    density := OptionArguments.named arguments "density" (.int 1)
    copies := OptionArguments.named arguments "copies" (.int 1)
    gap := OptionArguments.named arguments "gap" (.int 26)
  }

/- DPL options field by field. -/
def DplOptions.ofArguments
    (arguments : Fields) :
    Except Fault DplOptions := do
  OptionArguments.checkKeys ["dpi", "units", "quantity"] arguments
  let scale ← OptionArguments.scale arguments
  return {
    scale
    quantity := OptionArguments.named arguments "quantity" (.int 1)
  }

namespace PrinterOptions

/- The options of a language field by field. -/
def ofArguments
    (protocol : Protocol)
    (arguments : Fields) :
    Except Fault PrinterOptions :=
  match protocol with
  | .zpl => do return .zpl (← ZplOptions.ofArguments arguments)
  | .epl => do return .epl (← EplOptions.ofArguments arguments)
  | .dpl => do return .dpl (← DplOptions.ofArguments arguments)

end PrinterOptions

------------------------------------------------------------
-- Options as Values
------------------------------------------------------------

/- The fields of a scale in order. -/
def Scale.fields
    (s : Scale) :
    Fields :=
  [("dpi", s.dpi), ("units", .text s.units.name)]

namespace PrinterOptions

/- The language that options are for. -/
def protocol :
    PrinterOptions → Protocol
  | .zpl _ => .zpl
  | .epl _ => .epl
  | .dpl _ => .dpl

/- The scale of options. -/
def scale :
    PrinterOptions → Scale
  | .zpl o => o.scale
  | .epl o => o.scale
  | .dpl o => o.scale

/- The fields of options other than their scale, in order. -/
def ownFields :
    PrinterOptions → Fields
  | .zpl o =>
      [("print_speed", o.printSpeed), ("density", o.density),
        ("tear_off", o.tearOff)]
  | .epl o =>
      [("speed", o.speed), ("density", o.density),
        ("copies", o.copies), ("gap", o.gap)]
  | .dpl o => [("quantity", o.quantity)]

/- The fields of options in order. -/
def fields
    (o : PrinterOptions) :
    Fields :=
  o.scale.fields ++ o.ownFields

/- Options as a value. -/
def toValue
    (o : PrinterOptions) :
    Value :=
  .record (.options o.protocol) o.fields

/- The options that a value is, if it is some. -/
def ofValue? :
    Value → Option PrinterOptions
  | .record (.options p) fields => (ofArguments p fields).toOption
  | _ => none

end PrinterOptions

/- The options that are given as such. -/
def OptionSource.built? :
    OptionSource → Option PrinterOptions
  | .built o => some o
  | .data v => PrinterOptions.ofValue? v

/- The fields that are given where no options are. -/
def OptionSource.fields :
    OptionSource → Except Fault Fields
  | .built _ => .error .missingPart
  | .data v => OptionFields.ofValue v

------------------------------------------------------------
-- Options from Sources
------------------------------------------------------------

namespace ZplOptions

/- The options that fields describe. -/
def ofFields
    (fields : Fields) :
    Outcome ZplOptions := do
  let dpi ← OptionFields.resolution fields
  let units ← OptionFields.units fields
  let printSpeed ← OptionFields.whole fields "print_speed" "printSpeed" 4
  let density ← OptionFields.whole fields "density" "density" 8
  let tearOff ← OptionFields.whole fields "tear_off" "tearOff" 0
  let scale ← Scale.make (.double dpi) units
  return ⟨scale, printSpeed, density, tearOff⟩

/- The options that are given. -/
def ofSource
    (source : OptionSource) :
    Outcome ZplOptions :=
  match source.built? with
  | some (.zpl o) => .ok o
  | _ => do
      let fields ← source.fields
      ofFields fields

end ZplOptions

namespace EplOptions

/- The options that fields describe. -/
def ofFields
    (fields : Fields) :
    Outcome EplOptions := do
  let dpi ← OptionFields.resolution fields
  let units ← OptionFields.units fields
  let speed ← OptionFields.whole fields "speed" "speed" 4
  let density ← OptionFields.whole fields "density" "density" 1
  let copies ← OptionFields.whole fields "copies" "copies" 1
  let gap ← OptionFields.whole fields "gap" "gap" 26
  let scale ← Scale.make (.double dpi) units
  return ⟨scale, speed, density, copies, gap⟩

/- The options that are given. -/
def ofSource
    (source : OptionSource) :
    Outcome EplOptions :=
  match source.built? with
  | some (.epl o) => .ok o
  | _ => do
      let fields ← source.fields
      ofFields fields

end EplOptions

namespace DplOptions

/- The options that fields describe. -/
def ofFields
    (fields : Fields) :
    Outcome DplOptions := do
  let dpi ← OptionFields.resolution fields
  let units ← OptionFields.units fields
  let quantity ← OptionFields.whole fields "quantity" "quantity" 1
  let scale ← Scale.make (.double dpi) units
  return ⟨scale, quantity⟩

/- The options that are given. -/
def ofSource
    (source : OptionSource) :
    Outcome DplOptions :=
  match source.built? with
  | some (.dpl o) => .ok o
  | _ => do
      let fields ← source.fields
      ofFields fields

end DplOptions

namespace PrinterOptions

/- The options that are given to a language. -/
def ofSource
    (protocol : Protocol)
    (source : OptionSource) :
    Outcome PrinterOptions :=
  match protocol with
  | .zpl => do return .zpl (← ZplOptions.ofSource source)
  | .epl => do return .epl (← EplOptions.ofSource source)
  | .dpl => do return .dpl (← DplOptions.ofSource source)

end PrinterOptions

end LabelPress

import LabelPress.Label.Bounds
import LabelPress.Label.Coercion
import LabelPress.Printer.Dpl
import LabelPress.Printer.Epl
import LabelPress.Printer.Zpl

/-
  Command streams.

  A stream is the opening lines of a language, the block of each
  element in the order of depth, and the closing lines, each line
  ended by a newline.  An element that cannot be encoded has an
  empty block and leaves a notice; one with a value too deep in
  itself ends the stream.

  Key definitions include:
    * `depthKey`, `orderedByDepth`, `sortByDepth`
    * `Printer`, with `Printer.ofSource`
    * `Printer.encode`
    * `Printer.emit`
    * `emitAll`
-/

namespace LabelPress

variable [Machine]

------------------------------------------------------------
-- Order
------------------------------------------------------------

/- The depth of an element; what is no number counts as zero. -/
def depthKey
    (e : Element) :
    Except Fault Double := do
  let z ← e.zIndex.doubleOrNaN
  return definedOrZero z

/- Pair each element with its depth. -/
def withDepths :
    List Element → Except Fault (List (Double × Element))
  | [] => return []
  | e :: es => do
      let z ← depthKey e
      let rest ← withDepths es
      return (z, e) :: rest

/- Put a thing with a depth before the first that is as deep. -/
def insertByDepth
    {α : Type}
    (p : Double × α) :
    List (Double × α) → List (Double × α)
  | [] => [p]
  | q :: rest =>
      if Double.lt q.1 p.1 then q :: insertByDepth p rest
      else p :: q :: rest

/- Things by depth; equal depths keep their order. -/
def orderedByDepth
    {α : Type}
    (keyed : List (Double × α)) :
    List (Double × α) :=
  keyed.foldr insertByDepth []

/- Elements by depth; equal depths keep their order. -/
def sortByDepth
    (es : List Element) :
    Except Fault (List Element) := do
  let keyed ← withDepths es
  return (orderedByDepth keyed).map fun p => p.2

------------------------------------------------------------
-- Printers
------------------------------------------------------------

/- A printer is a language with its options. -/
structure Printer where
  options : PrinterOptions

namespace Printer

/- The language of a printer. -/
def protocol
    (p : Printer) :
    Protocol :=
  p.options.protocol

/- The printer of a language that a value names. -/
def ofSource
    (protocol : Value)
    (source : OptionSource) :
    Outcome Printer := do
  protocol.checkShown .protocol
  match Protocol.ofText? protocol.toText with
  | some p => do
      let options ← PrinterOptions.ofSource p source
      return ⟨options⟩
  | none => do
      protocol.checkShown .protocolComplaint
      Outcome.fail (.unsupportedProtocol protocol.toText Protocol.names)

/- The block of an element, or the fault that prevents it. -/
def block
    (p : Printer)
    (e : Element) :
    Except Fault (List Text) :=
  match p.options with
  | .zpl o => do return (← Zpl.fields o e).map Zpl.Field.written
  | .epl o => do return (← Epl.records o e).map Epl.Record.written
  | .dpl o => do return (← Dpl.records o e).map Dpl.Record.written

/- The lines that open a label on a canvas. -/
def opening
    (p : Printer)
    (canvas : Canvas) :
    Except Fault (List Text) :=
  match p.options with
  | .zpl o => Zpl.opening o canvas
  | .epl o => Epl.opening o canvas
  | .dpl o => Dpl.opening o canvas

/- The lines that close a label. -/
def closing
    (p : Printer) :
    List Text :=
  match p.options with
  | .zpl _ => Zpl.closing
  | .epl o => Epl.closing o
  | .dpl _ => Dpl.closing

/- Check that the lines that close a label can be shown. -/
def checkClosing
    (p : Printer) :
    Except Fault Unit :=
  match p.options with
  | .epl o => o.copies.checkShown .closing
  | _ => .ok ()

/- Whether an element is of one of the known types. -/
def hasKnownType
    (e : Element) :
    Bool :=
  match e.content with
  | .unknown .. => false
  | .bare => false
  | _ => true

/-
  Skip an element with a notice.  A value too deep in itself is no
  fault of one element and ends more.
-/
def skip
    (e : Element)
    (f : Fault) :
    Outcome (List Text) :=
  if f = .nestedTooDeep then .fail f
  else do
    Outcome.noteShowing (e.id.checkShown .failureNotice)
      (.elementSkipped e.id.toText f)
    return []

/- The block of an element; a failing one is skipped. -/
def encode
    (p : Printer)
    (e : Element) :
    Outcome (List Text) :=
  if hasKnownType e then
    match p.block e with
    | .ok lines => .ok lines
    | .error f => skip e f
  else do
    Outcome.noteShown (e.id.checkShown .failureNotice)
      (.unsupportedElement e.id.toText p.protocol.name)
    return []

/- The block of an element that should lie on a canvas. -/
def encodeOn
    (p : Printer)
    (canvas : Canvas)
    (e : Element) :
    Outcome (List Text) := do
  let inside ← e.isInside canvas
  if !inside then
    Outcome.noteShowing (e.id.checkShown .canvasNotice)
      (.beyondCanvas e.id.toText p.protocol.name)
  p.encode e

/- Lines as one text, each ended by a newline. -/
def joined
    (lines : List Text) :
    Text :=
  Text.intercalate "\n" lines ++ "\n"

/- The stream of a label. -/
def emit
    (p : Printer)
    (source : EntrySource)
    (canvas : CanvasSource) :
    Outcome Text := do
  let canvas ← Canvas.ofSource canvas
  let opening ← p.opening canvas
  let entries ← source.entries?
  let elements ← coerceEntries entries
  let sorted ← sortByDepth elements
  let blocks ← Outcome.each (p.encodeOn canvas) sorted
  p.checkClosing
  return joined (opening ++ blocks.flatten ++ p.closing)

end Printer

/- The stream of a label in a language that a value names. -/
def emitLabel
    (protocol : Value)
    (source : EntrySource)
    (canvas : CanvasSource)
    (options : OptionSource) :
    Outcome Text := do
  let p ← Printer.ofSource protocol options
  p.emit source canvas

/- The streams of a label in all languages. -/
def emitAll
    (source : EntrySource)
    (canvas : CanvasSource)
    (options : OptionSource) :
    Outcome (List (Text × Text)) :=
  Outcome.each
    (fun (p : Protocol) => do
      let code ← emitLabel (.text p.name) source canvas options
      return (p.name, code))
    Protocol.all

end LabelPress

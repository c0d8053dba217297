import LabelPress.Fault

/-
  Results together with notices.

  An operation answers with a result or a fault, and on the way
  it may leave notices.  What was noticed before a fault is kept.

  Key definitions include:
    * `Notice`, with `Notice.message`
    * `Outcome`, with its `bind` and `Outcome.lift`
-/

namespace LabelPress

------------------------------------------------------------
-- Notices
------------------------------------------------------------

/- How much a notice matters. -/
inductive Level where
  | debug
  | warning
  deriving DecidableEq

/- The part of the library that a notice comes from. -/
inductive Channel where
  | model
  | protocol
  | resolver
  | command
  deriving DecidableEq

/- Something worth knowing that does not end an operation. -/
inductive Notice where
  /- a property that no field of its element reads -/
  | propertyIgnored (elementType : Text) (key : Text)
  /- an element of a type that is not known -/
  | unknownType (id : Text) (elementType : Text)
  /- an entry that is neither an element nor an object -/
  | entrySkipped (index : Nat) (kind : Text)
  /- an option with an unusable value -/
  | optionIgnored (name : Text) (given : Text) (used : Text)
  /- an element that reaches over the edge -/
  | beyondCanvas (id : Text) (protocol : Text)
  /- an element that the printer language has no record for -/
  | unsupportedElement (id : Text) (protocol : Text)
  /- an element that could not be encoded -/
  | elementSkipped (id : Text) (cause : Fault)
  /- a variable whose name is no identifier -/
  | variableSkipped (name : Text)
  /- a placeholder without a value -/
  | unboundPlaceholder (placeholder : Text)
  /- a number directive that does not apply -/
  | directiveFailed (directive : Text) (value : Text)
  /- the start of an emission -/
  | emitting
      (count : Nat)
      (protocol : Text)
      (width : Text)
      (height : Text)
  deriving DecidableEq

namespace Notice

/- The level of a notice. -/
def level :
    Notice → Level
  | propertyIgnored .. => .debug
  | unknownType .. => .debug
  | entrySkipped .. => .warning
  | optionIgnored .. => .warning
  | beyondCanvas .. => .warning
  | unsupportedElement .. => .debug
  | elementSkipped .. => .warning
  | variableSkipped .. => .warning
  | unboundPlaceholder .. => .debug
  | directiveFailed .. => .debug
  | emitting .. => .debug

/- Where a notice comes from. -/
def channel :
    Notice → Channel
  | propertyIgnored .. => .model
  | unknownType .. => .model
  | entrySkipped .. => .model
  | optionIgnored .. => .protocol
  | beyondCanvas .. => .protocol
  | unsupportedElement .. => .protocol
  | elementSkipped .. => .protocol
  | variableSkipped .. => .resolver
  | unboundPlaceholder .. => .resolver
  | directiveFailed .. => .resolver
  | emitting .. => .command

/- The wording of a notice, given the wording of faults. -/
def messageWith
    (faultText : Fault → Text) :
    Notice → Text
  | propertyIgnored elementType key =>
      "Ignoring unknown " ++ elementType ++ " property " ++
        Text.quoted key
  | unknownType id elementType =>
      "Element " ++ id ++ " has unknown type " ++ Text.quoted elementType
  | entrySkipped index kind =>
      "Skipping element " ++ toString index ++
        ": expected an element or a mapping, got " ++ kind
  | optionIgnored name given used =>
      "Ignoring invalid option " ++ name ++ "=" ++ given ++
        ", using " ++ used
  | beyondCanvas id protocol =>
      "Element " ++ id ++ " extends beyond the " ++ protocol ++ " canvas"
  | unsupportedElement id protocol =>
      "Skipping element " ++ id ++ " of unsupported type for " ++ protocol
  | elementSkipped id cause =>
      "Skipping element " ++ id ++ ": " ++ faultText cause
  | variableSkipped name =>
      "Skipping variable with invalid name " ++ Text.quoted name
  | unboundPlaceholder placeholder =>
      "Placeholder " ++ placeholder ++ " has no binding"
  | directiveFailed directive value =>
      "Number directive " ++ Text.quoted directive ++ " failed for " ++
        value
  | emitting count protocol width height =>
      "Emitting " ++ toString count ++ " elements as " ++ protocol ++
        " on a " ++ width ++ "x" ++ height ++ " canvas"

/- The wording of a notice. -/
def message
    (n : Notice) :
    Text :=
  n.messageWith Fault.message

/- Whether a notice is a warning. -/
def isWarning
    (n : Notice) :
    Bool :=
  n.level == .warning

end Notice

------------------------------------------------------------
-- Outcomes
------------------------------------------------------------

/- A result or a fault, and what was noticed on the way. -/
structure Outcome (α : Type) where
  result : Except Fault α
  notices : List Notice

namespace Outcome

variable {α β : Type}

/- A result without notices. -/
def ok
    (a : α) :
    Outcome α :=
  ⟨.ok a, []⟩

/- A fault without notices. -/
def fail
    (f : Fault) :
    Outcome α :=
  ⟨.error f, []⟩

/- One notice. -/
def note
    (n : Notice) :
    Outcome Unit :=
  ⟨.ok (), [n]⟩

/-
  One notice with a value in it.  It is lost if the value cannot
  be shown; a value too deep in itself ends the operation.
-/
def noteShowing
    (shown : Except Fault Unit)
    (n : Notice) :
    Outcome Unit :=
  match shown with
  | .ok () => note n
  | .error f => if f = .nestedTooDeep then fail f else ok ()

/- One notice with a value in it, lost if that cannot be shown. -/
def noteShown
    (shown : Except Fault Unit)
    (n : Notice) :
    Outcome Unit :=
  match shown with
  | .ok () => note n
  | .error _ => ok ()

/- A step that leaves no notice. -/
def lift
    (r : Except Fault α) :
    Outcome α :=
  ⟨r, []⟩

/- One step after another; a fault ends the sequence. -/
def bind
    (x : Outcome α)
    (f : α → Outcome β) :
    Outcome β :=
  match x.result with
  | .error e => ⟨.error e, x.notices⟩
  | .ok a =>
      let y := f a
      ⟨y.result, x.notices ++ y.notices⟩

instance : Monad Outcome where
  pure := ok
  bind := bind

instance : MonadLift (Except Fault) Outcome :=
  ⟨lift⟩

instance : Inhabited (Outcome α) :=
  ⟨fail .wrongKind⟩

/- Apply a step to each item in order. -/
def each
    (f : α → Outcome β) :
    List α → Outcome (List β)
  | [] => ok []
  | a :: rest =>
      bind (f a) fun b => bind (each f rest) fun bs => ok (b :: bs)

/- The warnings of an outcome, in order. -/
def warnings
    (x : Outcome α) :
    List Notice :=
  x.notices.filter Notice.isWarning

end Outcome

end LabelPress

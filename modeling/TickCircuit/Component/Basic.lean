import TickCircuit.Component.State

/-!
# Components

A component has an id, a type, settings, a readable value, the signals on its pins and a state. Its
type is one of the known kinds, or a foreign one: such a component has no pins and does nothing, and
is kept so that its circuit can be written back unchanged.
-/

namespace TickCircuit

/-! ## §1 Types -/

/-- The type of a component. -/
inductive ComponentType where
  | known (kind : Kind)
  | foreign (name : Value)

namespace ComponentType

/-- The type that a value names. -/
def ofValue (v : Value) : ComponentType :=
  match v with
  | .text s => match Kind.ofName? s with
    | some k => known k
    | none => foreign v
  | _ => foreign v

/-- The value that names a type. -/
def toValue : ComponentType → Value
  | known k => .text k.name
  | foreign v => v

def kind? : ComponentType → Option Kind
  | known k => some k
  | foreign _ => none

def inputPins : ComponentType → List String
  | known k => k.inputPins
  | foreign _ => []

def outputPins : ComponentType → List String
  | known k => k.outputPins
  | foreign _ => []

def defaults : ComponentType → Record
  | known k => k.defaults
  | foreign _ => []

def literal? : ComponentType → Option Value
  | known k => k.literal?
  | foreign _ => none

@[reducible] def shape : ComponentType → Shape
  | known k => k.shape
  | foreign _ => .stateless

def hasInputPin (t : ComponentType) (pin : Value) : Bool :=
  t.inputPins.any fun p => pin.isText p

def hasOutputPin (t : ComponentType) (pin : Value) : Bool :=
  t.outputPins.any fun p => pin.isText p

/-- A type without output pins. -/
def isSink (t : ComponentType) : Bool := t.outputPins.isEmpty

end ComponentType

/-! ## §2 Pins -/

/-- Signals by the names of their pins. -/
abbrev Pins := List (String × Value)

/-- The signal on a pin; `absent` on a pin that is not there. -/
def Pins.read (pins : Pins) (name : String) : Value := (List.lookup name pins).getD .absent

/-! ## §3 Components -/

structure Component where
  id : Value
  type : ComponentType
  settings : Record
  /-- The readable value: a literal, a reading, or what was emitted last. -/
  value : Value
  inputs : Pins
  outputs : Pins
  state : type.shape.State

namespace Component

/-- A new component: its settings are put on top of the defaults of its type, and the literal of its
type stands in for a value that is not given. -/
def create (id type : Value) (settings : Record) (value : Value) : Except Fault Component := do
  let type := ComponentType.ofValue (← type.asKey)
  let settings := type.defaults.merge settings
  let value := match value, type.literal? with
    | .null, some literal => literal
    | v, _ => v
  return ⟨id, type, settings, value, [], [], ← type.shape.initial settings⟩

/-- The component as it was when it was created, under its present settings. A literal stays. -/
def reset (c : Component) : Except Fault Component := do
  let state ← c.type.shape.initial c.settings
  return { c with
    state, inputs := [], outputs := [],
    value := if c.type.literal?.isSome then c.value else .null }

/-- How a component is shown in messages. -/
def label (c : Component) : String :=
  "ComponentData(" ++ c.id.display ++ ": " ++ c.type.toValue.display ++ ")"

/-! ## §4 Documents -/

/-- The value of a component as a field of its document; there is none when there is no value. -/
def valueField : Value → List (String × Value)
  | .null => []
  | .absent => []
  | v => [("value", v)]

/-- The document of a component. -/
def toDocument (c : Component) : Value :=
  .object (Record.ofFields ([("id", c.id), ("type", c.type.toValue),
    ("settings", .object c.settings)] ++ valueField c.value))

/-- The component of a document. -/
def ofDocument (d : Value) : Except Fault Component := do
  let id ← d.field "id"
  let type ← d.field "type"
  let settings ← match d.field "settings" with
    | .ok s => s.toRecord
    | .error _ => .ok []
  create id type settings (match d.field "value" with
    | .ok v => v
    | .error _ => .null)

end Component

end TickCircuit

import TickCircuit.Circuit.Basic

/-!
# Editing Circuits

The edits that a circuit can undergo. An edit gives the circuit as it is afterwards, the events to
be announced, and its result or the fault in which it ended. An edit that is refused leaves the
components and wires as they are and announces nothing.
-/

namespace TickCircuit

/-! ## §1 Events -/

/-- What can be announced about a circuit and its runs. -/
inductive Event where
  | componentAdded (id : Value)
  | componentRemoved (id : Value)
  | settingsChanged (id : Value)
  | valueChanged (id : Value)
  | buttonChanged (id : Value)
  | wireAdded (id : Value)
  | wireRemoved (id : Value)
  | circuitCleared
  | runStarted
  | runStopped
  | runReset
  | tickCompleted (tick : Nat)

namespace Event

def name : Event → String
  | componentAdded _ => "component_added"
  | componentRemoved _ => "component_removed"
  | settingsChanged _ => "component_settings_changed"
  | valueChanged _ => "component_value_changed"
  | buttonChanged _ => "button_state_changed"
  | wireAdded _ => "wire_added"
  | wireRemoved _ => "wire_removed"
  | circuitCleared => "circuit_cleared"
  | runStarted => "simulation_started"
  | runStopped => "simulation_stopped"
  | runReset => "simulation_reset"
  | tickCompleted _ => "tick_completed"

/-- What an event is about: an id, the number of a tick, or nothing. -/
def subject : Event → Value
  | componentAdded id => id
  | componentRemoved id => id
  | settingsChanged id => id
  | valueChanged id => id
  | buttonChanged id => id
  | wireAdded id => id
  | wireRemoved id => id
  | circuitCleared => .null
  | runStarted => .null
  | runStopped => .null
  | runReset => .null
  | tickCompleted n => .int n

end Event

/-! ## §2 Outcomes -/

/-- What an edit leads to. -/
structure Edited (α : Type) where
  circuit : Circuit
  result : Except Fault α
  events : List Event := []

namespace Edited

variable {α : Type}

def done (circuit : Circuit) (result : α) (events : List Event) : Edited α :=
  ⟨circuit, .ok result, events⟩

def failed (circuit : Circuit) (fault : Fault) : Edited α := ⟨circuit, .error fault, []⟩

def refused (circuit : Circuit) (defect : Defect) : Edited α := failed circuit (.refused defect)

end Edited

namespace Circuit

/-! ## §3 Components -/

/-- A new component put into the circuit. -/
def place (c : Circuit) (id type settings : Value) : Edited Value :=
  let settings : Value := if settings.truthy then settings else .object []
  match settings.toRecord with
  | .error e => .failed c e
  | .ok record =>
    match Component.create id type record .null with
    | .error e => .failed c e
    | .ok component =>
      match c.add component with
      | .error e => .failed c e
      | .ok c => .done c id [.componentAdded id]

/-- Adds a component of a known type. Without an id it gets the next free one of its type; the count
of ids goes on even if the component cannot be made. -/
def addComponent (c : Circuit) (type settings id : Value) : Edited Value :=
  match (ComponentType.ofValue type).kind? with
  | none => .refused c (.noSuchType type)
  | some _ =>
    match id with
    | .null =>
      match c.nextComponentId type with
      | .error e => .failed c e
      | .ok (id, c) => c.place id type settings
    | id =>
      match c.find? id with
      | .error e => .failed c e
      | .ok (some _) => .refused c (.idInUse id)
      | .ok none => c.place id type settings

/-- Removes a component together with its wires. An unknown id is ignored. -/
def removeComponent (c : Circuit) (id : Value) : Edited Unit :=
  match c.find? id with
  | .error e => .failed c e
  | .ok none => .done c () []
  | .ok (some _) =>
    match c.remove id with
    | .error e => .failed c e
    | .ok (gone, c) => .done c () (gone.map .wireRemoved ++ [.componentRemoved id])

/-- The settings from which states start. -/
def seedSettings : List String := ["isOn", "value", "selectedConnection", "color"]

/-- One of the named settings is changed. -/
def changesAny (settings : Record) (changes : Value) : List String → Except Fault Bool
  | [] => .ok false
  | name :: rest => do
    if ← changes.mentions name then
      if (← changes.field name).same (settings.setting name) then changesAny settings changes rest
      else return true
    else changesAny settings changes rest

/-- The circuit with another component in the place of one. -/
def replace (c : Circuit) (id : Value) (component : Component) : Circuit :=
  { c with components := c.components.modify id fun _ => component }

/-- Puts new settings on top of those of a component. If one from which states start is changed, the
component starts again. An unknown id is ignored. Settings that come as a sequence of pairs are put
there one by one, up to one that is no pair. -/
def updateSettings (c : Circuit) (id changes : Value) : Edited Unit :=
  match c.find? id with
  | .error e => .failed c e
  | .ok none => .done c () []
  | .ok (some old) =>
    match changesAny old.settings changes seedSettings with
    | .error e => .failed c e
    | .ok changed =>
      let (put, settings) := changes.putOnto old.settings
      let updated := { old with settings }
      match put with
      | .error e => .failed (c.replace id updated) e
      | .ok () =>
        if changed && updated.type.shape != .stateless then
          match updated.reset with
          | .error e => .failed (c.replace id updated) e
          | .ok fresh => .done (c.replace id fresh) () [.settingsChanged old.id]
        else .done (c.replace id updated) () [.settingsChanged old.id]

/-- Sets the readable value of a component. An unknown id is ignored. -/
def updateValue (c : Circuit) (id value : Value) : Edited Unit :=
  match c.find? id with
  | .error e => .failed c e
  | .ok none => .done c () []
  | .ok (some old) => .done (c.replace id { old with value }) () [.valueChanged old.id]

/-- The component with its button pressed or released, if it has one. -/
def pressed (isPressed : Bool) : Component → Option Component
  | ⟨id, .known .button, settings, value, inputs, outputs, _⟩ =>
    some ⟨id, .known .button, settings, value, inputs, outputs, isPressed⟩
  | _ => none

/-- Presses or releases a button. An unknown id is ignored. -/
def press (c : Circuit) (id : Value) (isPressed : Bool) : Edited Unit :=
  match c.find? id with
  | .error e => .failed c e
  | .ok none => .done c () []
  | .ok (some old) =>
    match pressed isPressed old with
    | some new => .done (c.replace id new) () [.buttonChanged old.id]
    | none => .refused c (.notAButton id old.type.toValue)

/-! ## §4 Wires -/

/-- Connects an output pin to an input pin. -/
def connect (c : Circuit) (sourceId sourcePin targetId targetPin : Value) : Edited Value :=
  match c.find? sourceId, c.find? targetId with
  | .error e, _ => .failed c e
  | _, .error e => .failed c e
  | .ok none, _ => .refused c (.unknownSource sourceId)
  | _, .ok none => .refused c (.unknownTarget targetId)
  | .ok (some source), .ok (some target) =>
    if !source.type.hasOutputPin sourcePin then
      .refused c (.noOutputPin source.type.toValue sourceId sourcePin)
    else if !target.type.hasInputPin targetPin then
      .refused c (.noInputPin target.type.toValue targetId targetPin)
    else if sourceId.same targetId && sourcePin.same targetPin then
      .refused c (.ownPin sourcePin sourceId)
    else
      match c.nextWireId with
      | .error e => .failed c e
      | .ok (id, c) =>
        .done (c.addWire ⟨id, sourceId, sourcePin, targetId, targetPin⟩) id [.wireAdded id]

/-- Takes away the first wire with an id. An unknown id is ignored. -/
def disconnect (c : Circuit) (id : Value) : Edited Unit :=
  match c.removeWire id with
  | (true, c) => .done c () [.wireRemoved id]
  | (false, c) => .done c () []

/-- Takes everything away. -/
def clearAll (c : Circuit) : Edited Unit := .done c.clear () [.circuitCleared]

end Circuit

end TickCircuit

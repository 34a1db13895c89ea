import TickCircuit.Proofs.Engine.Tick

/-!
# Snapshots in Mid-Run

Ticks run a circuit and do not edit it: its components keep their places, ids, types and settings, its
constants keep their values, and its wires and counters stay as they are (`run_kept`). The engine keeps
its settings.

So it does not matter for the document of a circuit when it is taken. Only readings come and go in it:
the values of components that are no constants (`Value.withoutReadings`, `snapshot_kept`).
-/

namespace TickCircuit

/-! ## §1 Readings in Documents -/

/-- The document of a component without its value, unless it is the document of a constant. -/
def Value.withoutReading : Value → Value
  | .object es =>
    if (Table.get? es "type").any (Value.isText "Constant") then .object es
    else .object (Table.erase es (.text "value"))
  | v => v

/-- The document of a circuit without the readings of its components. -/
def Value.withoutReadings : Value → Value
  | .object es => .object (Table.modify es (.text "components") fun
      | .list ds => .list (ds.map withoutReading)
      | v => v)
  | v => v

/-! ## §2 Components -/

def ComponentType.isConstant (t : ComponentType) : Bool := t.toValue.isText "Constant"

theorem Kind.eq_constant {k : Kind} (named : (ComponentType.known k).isConstant = true) :
    k = constant := by
  cases k with
  | constant => rfl
  | _ => exact absurd named (by decide)

namespace Component

/-- What is kept of a component: its id, its type, its settings, and the value if it is a constant. -/
def kept (c : Component) : Value × ComponentType × Record × Option Value :=
  (c.id, c.type, c.settings, if c.type.isConstant then some c.value else none)

variable {c : Component}

theorem react_value_of_isConstant (m : Moment) (constant : c.type.isConstant = true) :
    (c.react m).1.value = c.value := by
  obtain ⟨id, type, settings, value, inputs, outputs, state⟩ := c
  cases type with
  | foreign t => rfl
  | known k =>
    obtain rfl := Kind.eq_constant constant
    rfl

/-- The turn of a constant leaves its value alone. -/
theorem turn_value_of_isConstant (m : Moment) (inputs : Except Fault Pins)
    (constant : c.type.isConstant = true) : (c.turn m inputs).component.value = c.value := by
  cases inputs with
  | error e => rfl
  | ok pins =>
    -- a history that cannot be limited ends the turn before the component has acted
    rcases turn_ok m pins c with ⟨e, -, refused⟩ | ⟨-, acts⟩
    · rw [refused]
      rfl
    · rw [acts, act_component]
      exact react_value_of_isConstant m constant

theorem turn_kept (m : Moment) (inputs : Except Fault Pins) (c : Component) :
    (c.turn m inputs).component.kept = c.kept := by
  have fixture := turn_fixture m inputs c
  have id : (c.turn m inputs).component.id = c.id := congrArg Fixture.id fixture
  have type : (c.turn m inputs).component.type = c.type := congrArg Fixture.type fixture
  have settings : (c.turn m inputs).component.settings = c.settings :=
    congrArg Fixture.settings fixture
  rw [kept, kept, id, type, settings]
  split
  · next constant => rw [turn_value_of_isConstant m inputs constant]
  · rfl

/-- The document of what is kept of a component. -/
def documentOfKept : Value × ComponentType × Record × Option Value → Value
  | (id, type, settings, literal) => .object (Record.ofFields
      ([("id", id), ("type", type.toValue), ("settings", .object settings)] ++
        (literal.map valueField).getD []))

/-- Without a reading the document of a component shows what is kept of it, and nothing else. -/
theorem withoutReading_toDocument (c : Component) :
    c.toDocument.withoutReading = documentOfKept c.kept := by
  have type : Table.get? (Record.ofFields ([("id", c.id), ("type", c.type.toValue),
    ("settings", .object c.settings)] ++ valueField c.value)) "type" = some c.type.toValue := rfl
  rw [toDocument, Value.withoutReading, type, Option.any_some, kept]
  change (if c.type.isConstant then _ else _) = _
  split
  · rfl
  · cases c.value <;> rfl

end Component

/-! ## §3 Circuits -/

/-- Another circuit in which nothing is edited: it has the same components in the same order, up to their
readings, states and signals, the same wires and the same counters. -/
structure Circuit.Kept (c c' : Circuit) : Prop where
  components : c'.components.map (fun x => (x.1, x.2.kept)) = c.components.map fun x => (x.1, x.2.kept)
  wires : c'.wires = c.wires
  counters : c'.counters = c.counters
  wireCounter : c'.wireCounter = c.wireCounter

namespace Circuit.Kept

theorem refl (c : Circuit) : c.Kept c := ⟨rfl, rfl, rfl, rfl⟩

theorem trans {a b c : Circuit} (first : a.Kept b) (second : b.Kept c) : a.Kept c where
  components := second.components.trans first.components
  wires := second.wires.trans first.wires
  counters := second.counters.trans first.counters
  wireCounter := second.wireCounter.trans first.wireCounter

/-- The documents of the two circuits are the same up to readings. -/
theorem withoutReadings {c c' : Circuit} (h : c.Kept c') :
    c'.toDocument.withoutReadings = c.toDocument.withoutReadings := by
  have shown (d : Circuit) : d.toDocument.withoutReadings = .object (Record.ofFields [
      ("components", .list ((d.components.map fun x => (x.1, x.2.kept)).map fun x =>
        Component.documentOfKept x.2)),
      ("wires", .list (d.wires.map Wire.toDocument)),
      ("counters", d.counters), ("wire_counter", d.wireCounter)]) := by
    have components : (d.components.map fun x => x.2.toDocument).map Value.withoutReading =
        (d.components.map fun x => (x.1, x.2.kept)).map fun x => Component.documentOfKept x.2 := by
      rw [List.map_map, List.map_map]
      exact List.map_congr_left fun x _ => x.2.withoutReading_toDocument
    rw [← components]
    rfl
  rw [shown, shown, h.components, h.wires, h.counters, h.wireCounter]

end Circuit.Kept

/-! ## §4 Ticks -/

namespace Engine

/-- **Step**: a tick keeps the circuit, whether or not it ends in a fault. -/
theorem tick_kept (e : Engine) (c : Circuit) : c.Kept (e.tick c).circuit where
  components := by
    cases h : Delivery.winners c.wires with
    | ok winners =>
      rw [tick_circuit h]
      exact sweep_view _ _ Component.kept fun x => Component.turn_kept _ _ x
    | error fault => rw [tick_circuit_of_error h]
  wires := tick_wires e c
  counters := tick_counters e c
  wireCounter := tick_wireCounter e c

/-- **Run**: so does a run of any number of ticks, which leaves the settings of the engine alone, too. -/
theorem run_kept (e : Engine) (c : Circuit) (count : Nat) :
    c.Kept (e.run c count).circuit ∧ (e.run c count).engine.settings = e.settings := by
  induction count generalizing e c with
  | zero => exact ⟨.refl c, rfl⟩
  | succ count ih =>
    cases first : (e.tick c).fault with
    | some fault =>
      rw [run_of_fault (by rw [first]; rfl)]
      exact ⟨tick_kept e c, tick_settings e c⟩
    | none =>
      rw [run_of_no_fault first]
      obtain ⟨kept, settings⟩ := ih (e.tick c).engine (e.tick c).circuit
      exact ⟨(tick_kept e c).trans kept, settings.trans (tick_settings e c)⟩

/-- **Snapshots**: a run of any number of ticks, from any state of the engine and the circuit, edits
neither the circuit nor the settings of the engine, and the document of the circuit after it differs from
the one before it in the readings of components at most. -/
theorem snapshot_kept (e : Engine) (c : Circuit) (count : Nat) :
    let last := e.run c count
    c.Kept last.circuit ∧ last.engine.settings = e.settings ∧
      last.circuit.toDocument.withoutReadings = c.toDocument.withoutReadings := by
  intro last
  obtain ⟨kept, settings⟩ := run_kept e c count
  exact ⟨kept, settings, kept.withoutReadings⟩

end Engine

end TickCircuit

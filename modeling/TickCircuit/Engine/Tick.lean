import TickCircuit.Engine.Delivery
import TickCircuit.Reaction.Dispatch

/-!
# Ticks

The engine runs a circuit in ticks. In a tick every component receives what was published in the
tick before, reacts, and publishes on its output pins; then the broadcasts of the tick become
audible. Nothing that happens in a tick reaches another component in the same tick, so the order of
the components does not matter.

A component that fails emits nothing and is reported; the tick goes on. A tick itself ends in a
fault when signals cannot be delivered or a history cannot take its limit. Then the components
before that place have had their turn, and nothing is published.
-/

namespace TickCircuit

/-- The engine between two ticks. -/
structure Engine where
  settings : EngineSettings
  /-- The length of a tick in milliseconds. -/
  interval : Float
  /-- How many ticks have been run. -/
  ticks : Nat
  /-- The simulated time in milliseconds. -/
  elapsed : Float
  published : Published
  broadcast : Broadcast
  /-- The foreign types that have been reported. -/
  reported : List Value

/-! ## §1 One Component -/

/-- The part of one component in a tick. -/
structure Part where
  component : Component
  sent : Option (Int × Value) := none
  /-- The wording of the fault in which the reaction ended. -/
  failure : Option String := none
  /-- The fault that ends the whole tick. -/
  fault : Option Fault := none

namespace Component

/-- Sets the limit of a history, if the state of the shape is one. -/
def limitState (limit : Nat) : (s : Shape) → s.State → Except Fault Unit × s.State
  | .window, history => history.setLimit limit
  | .stateless, state => (.ok (), state)
  | .oscillator, state => (.ok (), state)
  | .relay, state => (.ok (), state)
  | .selector, state => (.ok (), state)
  | .latch, state => (.ok (), state)
  | .delay, state => (.ok (), state)
  | .memory, state => (.ok (), state)
  | .button, state => (.ok (), state)
  | .light, state => (.ok (), state)
  | .random, state => (.ok (), state)

/-- Sets the limit of the history of a component that has one. -/
def limitHistory (limit : Nat) (c : Component) : Except Fault Unit × Component :=
  let (r, state) := limitState limit c.type.shape c.state
  (r, { c with state })

/-- The signals on all output pins, given those that were emitted. -/
def published (c : Component) (emitted : Pins) : Pins :=
  c.type.outputPins.map fun pin => (pin, (emitted.read pin).asSignal)

/-- Lets a component react to the signals on its input pins and puts what it emits on its output
pins. A component that fails emits nothing. -/
def act (m : Moment) (c : Component) : Part :=
  let (c, effect) := c.react m
  match effect.outputs with
  | .ok emitted => ⟨{ c with outputs := c.published (emitted.getD []) }, effect.sent, none, none⟩
  | .error e => ⟨{ c with outputs := c.published [] }, effect.sent, some e.message, none⟩

/-- The turn of a component: it receives its inputs, its history takes its limit, and it reacts. -/
def turn (m : Moment) (inputs : Except Fault Pins) (c : Component) : Part :=
  match inputs with
  | .error e => { component := c, fault := some e }
  | .ok inputs =>
    match { c with inputs }.limitHistory m.settings.historyLimit with
    | (.error e, c) => { component := c, fault := some e }
    | (.ok (), c) => c.act m

end Component

/-! ## §2 All Components -/

/-- The parts of the components in a tick, up to one that ends it. -/
structure Sweep where
  parts : Table Part
  /-- The components that have not had their turn. -/
  rest : Table Component
  fault : Option Fault

/-- Gives each component its turn. -/
def sweep (turn : Component → Part) : Table Component → Sweep
  | [] => ⟨[], [], none⟩
  | (key, c) :: more =>
    let part := turn c
    match part.fault with
    | some e => ⟨[(key, part)], more, some e⟩
    | none =>
      let s := sweep turn more
      { s with parts := (key, part) :: s.parts }

namespace Sweep

/-- The components after the sweep. -/
def components (s : Sweep) : Table Component :=
  s.parts.map (fun e => (e.1, e.2.component)) ++ s.rest

/-- What the components have published. -/
def published (s : Sweep) : Published := s.parts.map fun e => (e.2.component.id, e.2.component.outputs)

/-- The broadcasts of the sweep put on top of others. -/
def broadcast (s : Sweep) (b : Broadcast) : Broadcast :=
  s.parts.foldl (fun b e => match e.2.sent with
    | some (channel, v) => b.send channel v
    | none => b) b

end Sweep

/-! ## §3 Reports -/

/-- The report that a component of a foreign type does nothing. -/
def foreignEntry (type : Value) : Log.Entry :=
  ⟨.warning, .engine, "No processor for component type '" ++ type.display ++ "'", none⟩

/-- The report that a reaction has failed. -/
def failureEntry (tick : Nat) (c : Component) (detail : String) : Log.Entry :=
  ⟨.error, .engine, "Processor for " ++ c.id.display ++ " (" ++ c.type.toValue.display ++
    ") failed on tick " ++ toString tick ++ ":", some detail⟩

/-- The reports of the parts in a tick. Each foreign type is reported once in the life of an
engine. -/
def reports (tick : Nat) : (reported : List Value) → List Part → List Value × List Log.Entry
  | reported, [] => (reported, [])
  | reported, p :: rest =>
    let (here, entries) := match p.component.type, p.failure, p.fault with
      | _, _, some _ => (reported, [])
      | .foreign type, _, none =>
        if reported.any (·.sameScalar type) then (reported, [])
        else (type :: reported, [foreignEntry type])
      | .known _, some detail, none => (reported, [failureEntry tick p.component detail])
      | .known _, none, none => (reported, [])
    let (last, more) := reports tick here rest
    (last, entries ++ more)

/-! ## §4 The Engine -/

/-- An engine and the circuit that it has run, with what was reported and the fault that ended the
run, if one did. -/
structure Ticked where
  engine : Engine
  circuit : Circuit
  log : List Log.Entry := []
  fault : Option Fault := none

namespace Engine

/-- An engine at the start of a run. A tick must fit into a `Float`. -/
def start (settings : EngineSettings) : Except Fault Engine :=
  match settings.tickInterval with
  | .int n =>
    if Binary.holdsInt n then .ok ⟨settings, Binary.ofInt n, 0, 0.0, [], .empty, []⟩
    else .error .intToFloat
  | .real x => .ok ⟨settings, x, 0, 0.0, [], .empty, []⟩

/-- What the next tick is like for all components. -/
def moment (e : Engine) (c : Circuit) : Moment :=
  ⟨e.ticks, e.interval, e.elapsed, c.wires, e.broadcast.previous, e.settings⟩

/-- The turns of all components of a circuit. -/
def turns (e : Engine) (c : Circuit) (winners : List Wire) : Sweep :=
  sweep (fun x => x.turn (e.moment c) (Delivery.inputs c.components e.published winners x))
    c.components

/-- Runs one tick. -/
def tick (e : Engine) (c : Circuit) : Ticked :=
  let e := { e with ticks := e.ticks + 1, elapsed := e.elapsed + e.interval }
  match Delivery.winners c.wires with
  | .error fault => { engine := e, circuit := c, fault := some fault }
  | .ok winners =>
    let s := e.turns c winners
    let (reported, log) := reports e.ticks e.reported (s.parts.map Prod.snd)
    let circuit := { c with components := s.components }
    let e := { e with reported, broadcast := s.broadcast e.broadcast }
    match s.fault with
    | some fault => { engine := e, circuit, log, fault := some fault }
    | none =>
      { engine := { e with published := s.published, broadcast := e.broadcast.swap }, circuit, log }

/-- Runs ticks until one ends in a fault. -/
def run (e : Engine) (c : Circuit) : (count : Nat) → Ticked
  | 0 => { engine := e, circuit := c }
  | count + 1 =>
    let t := e.tick c
    if t.fault.isSome then t
    else
      let last := t.engine.run t.circuit count
      { last with log := t.log ++ last.log }

/-- The value published on an output pin in the last tick. -/
def publishedValue (e : Engine) (id pin : Value) : Except Fault Value := do
  return (← e.published.get? id pin).getD .absent

/-- Sets the components back, up to one that cannot be. -/
def resetAll : Table Component → Table Component × Option Fault
  | [] => ([], none)
  | (key, c) :: rest =>
    match c.reset with
    | .error e => ((key, c) :: rest, some e)
    | .ok c =>
      let (more, fault) := resetAll rest
      ((key, c) :: more, fault)

/-- Sets the clock, the signals under way and all components back to the start. -/
def reset (e : Engine) (c : Circuit) : Ticked :=
  let (components, fault) := resetAll c.components
  { engine := { e with ticks := 0, elapsed := 0.0, published := [], broadcast := .empty },
    circuit := { c with components }, fault }

end Engine

end TickCircuit

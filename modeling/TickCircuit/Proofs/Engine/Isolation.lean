import TickCircuit.Proofs.Engine.Tick

/-!
# Isolation within a Tick

Within one tick no component influences another. A component sees its own fields, the wires, which
ids are in use, and what the tick before has left behind. Two circuits that agree on these and on one
component may differ in all their other components and in the order of them: after a tick that
component is the same in both (`tick_isolated`).
-/

namespace TickCircuit

/-! ## §1 What a Turn Depends On -/

namespace Component

/-- Equal but for the signals on the pins, which a tick replaces. -/
def AlikeButPins (x y : Component) : Prop :=
  y = { x with inputs := y.inputs, outputs := y.outputs }

/-- What a component has emitted before does not matter to how it acts. -/
theorem act_with_outputs (m : Moment) (c : Component) (outputs : Pins) :
    { c with outputs }.act m = c.act m := by
  obtain ⟨id, type, settings, value, inputs, old, state⟩ := c
  unfold act
  cases type with
  | foreign t => rfl
  | known k =>
    dsimp only [react]
    cases (Reaction.ofKind ⟨id, settings, inputs, value, m⟩ k state).outputs <;> rfl

/-- The turn of a component that does not end the tick is determined by all of it but its pins. -/
theorem turn_congr {x y : Component} (alike : x.AlikeButPins y) (m : Moment)
    (inputs : Except Fault Pins) (hx : (x.turn m inputs).fault = none)
    (hy : (y.turn m inputs).fault = none) : y.turn m inputs = x.turn m inputs := by
  cases inputs with
  | error e => cases hx
  | ok pins =>
    -- neither history refuses its limit, for that would end the tick
    rcases turn_ok m pins x with ⟨e, -, h⟩ | ⟨-, h⟩
    · rw [h] at hx
      cases hx
    rcases turn_ok m pins y with ⟨e, -, h'⟩ | ⟨-, h'⟩
    · rw [h'] at hy
      cases hy
    rw [h, h', alike]
    exact act_with_outputs m ({ x with inputs := pins }.limitHistory m.settings.historyLimit).2 _

end Component

namespace Delivery

/-- Of the other components only their ids matter to what is delivered. -/
theorem inputs_congr {t t' : Table Component} (ids : ∀ id, t.contains id = t'.contains id)
    {x y : Component} (sameId : y.id = x.id) (sameType : y.type = x.type) (published : Published)
    (winners : List Wire) : inputs t' published winners y = inputs t published winners x := by
  unfold inputs signal
  simp only [sameId, sameType, ids]

end Delivery

/-! ## §2 Two Circuits -/

namespace Engine

/-- Engines at the same point of a run, as far as a component can tell. -/
structure InStep (e e' : Engine) : Prop where
  settings : e'.settings = e.settings
  interval : e'.interval = e.interval
  ticks : e'.ticks = e.ticks
  elapsed : e'.elapsed = e.elapsed
  published : e'.published = e.published
  heard : e'.broadcast.previous = e.broadcast.previous

theorem InStep.moment_eq {e e' : Engine} (h : e.InStep e') {c c' : Circuit}
    (wires : c'.wires = c.wires) : e'.advanced.moment c' = e.advanced.moment c := by
  simp only [moment, advanced, h.settings, h.interval, h.ticks, h.elapsed, h.heard, wires]

/-- The turns of two components that differ in their pins only, in two circuits with the same wires
and the same ids in use. -/
theorem turnOf_congr {e e' : Engine} {c c' : Circuit} (engines : e.InStep e')
    (wires : c'.wires = c.wires)
    (ids : ∀ id, c.components.contains id = c'.components.contains id) {x x' : Component}
    (alike : x.AlikeButPins x') {winners : List Wire}
    (done : (e.turnOf c winners x).fault = none) (done' : (e'.turnOf c' winners x').fault = none) :
    e'.turnOf c' winners x' = e.turnOf c winners x := by
  have inputs : Delivery.inputs c'.components e'.published winners x' =
      Delivery.inputs c.components e.published winners x := by
    rw [engines.published]
    exact Delivery.inputs_congr ids (by rw [alike]) (by rw [alike]) _ _
  unfold turnOf at done done' ⊢
  rw [engines.moment_eq wires, inputs] at done' ⊢
  exact Component.turn_congr alike _ _ done done'

/-- **Isolation**: in two circuits with the same wires and the same ids in use, a component that is
the same in both (but for the signals on its pins, which are left over from earlier) ends a tick with
the same inputs, outputs, state and value in both, whatever the other components are and in whatever
order they stand. -/
theorem tick_isolated {e e' : Engine} {c c' : Circuit} {key : Value} {x x' : Component}
    (engines : e.InStep e') (wires : c'.wires = c.wires)
    (ids : ∀ id, c.components.contains id = c'.components.contains id)
    (found : c.components.find? key = some x) (found' : c'.components.find? key = some x')
    (alike : x.AlikeButPins x') (done : (e.tick c).fault = none)
    (done' : (e'.tick c').fault = none) :
    ∃ y, (e.tick c).circuit.components.find? key = some y ∧
      (e'.tick c').circuit.components.find? key = some y := by
  obtain ⟨winners, hw⟩ := winners_of_tick done
  have hw' : Delivery.winners c'.wires = .ok winners := by rw [wires, hw]
  obtain ⟨k, member, -⟩ := Table.mem_of_find? found
  obtain ⟨k', member', -⟩ := Table.mem_of_find? found'
  have same := turnOf_congr engines wires ids alike (turnOf_fault hw done member)
    (turnOf_fault hw' done' member')
  -- both ticks put the result of one and the same turn under the key
  refine ⟨(e.turnOf c winners x).component, ?_, ?_⟩
  · rw [tick_components hw done, Table.find?_map fun x => (e.turnOf c winners x).component, found]
    rfl
  · rw [tick_components hw' done', Table.find?_map fun x => (e'.turnOf c' winners x).component,
      found', ← same]
    rfl

/-! ### A component behind two sources -/

/-- A component that emits the magnitude of its input. -/
def magnitude : Component := ⟨.text "Abs1", .known .abs, [], .null, [], [], ()⟩

/-- A constant, and a pressed button under the same id. -/
def constantSource : Component := ⟨.text "In1", .known .constant, [], .int (-3), [], [], ()⟩

def buttonSource : Component :=
  ⟨.text "In1", .known .button, [], .int 8, [], [("SIGNAL_OUT", .int 7)], true⟩

/-- Components around one wire from the source to the magnitude. -/
def aroundWire (components : Table Component) : Circuit :=
  ⟨components, [⟨.text "W1", .text "In1", .text "VALUE_OUT", .text "Abs1", .text "SIGNAL_IN"⟩],
    .object [], .int 1⟩

/-- An engine in which the source has published `-3`. -/
def afterThreeTicks : Engine :=
  ⟨.standard, 100.0, 3, 300.0, [(.text "In1", [("VALUE_OUT", .int (-3))])], .empty, []⟩

/-- The magnitude does not tell the constant from the button that acts after it. -/
theorem tick_isolated_from_source :
    let c := aroundWire [(.text "In1", constantSource), (.text "Abs1", magnitude)]
    let c' := aroundWire [(.text "Abs1", magnitude), (.text "In1", buttonSource)]
    (afterThreeTicks.tick c).fault = none ∧ (afterThreeTicks.tick c').fault = none ∧
      ∃ y, (afterThreeTicks.tick c).circuit.components.find? (.text "Abs1") = some y ∧
        (afterThreeTicks.tick c').circuit.components.find? (.text "Abs1") = some y := by
  intro c c'
  have ids (id : Value) : c.components.contains id = c'.components.contains id := by
    rw [Bool.eq_iff_iff, Table.contains_iff, Table.contains_iff]
    simp [c, c', aroundWire, or_comm]
  have found : c.components.find? (.text "Abs1") = some magnitude := rfl
  have found' : c'.components.find? (.text "Abs1") = some magnitude := rfl
  have done : (afterThreeTicks.tick c).fault = none := rfl
  have done' : (afterThreeTicks.tick c').fault = none := rfl
  exact ⟨done, done',
    tick_isolated ⟨rfl, rfl, rfl, rfl, rfl, rfl⟩ rfl ids found found' rfl done done'⟩

end Engine

end TickCircuit

import TickCircuit.Proofs.Engine.Delivery
import TickCircuit.Proofs.Engine.Isolation

/-!
# What a Tick Publishes

A tick that goes through publishes a signal on every output pin of every component and nothing else
(`tick_publishes`). A component whose reaction fails, or whose type has none, shows no signal on any
of its pins. For all other components it makes no difference what stands in for a failed reaction,
as long as it emits nothing: a tick is compared with the one in which components behave differently
(`componentsAs`).
-/

namespace TickCircuit

/-! ## §1 Behaviours -/

/-- What a component does at a moment: its reaction, or something in the place of it. -/
abbrev Behaviour := Moment → Component → Component × Component.Effect

/-- The behaviour is the reaction of a component wherever that succeeds. Where it fails, or where
there is none because the type is foreign, nothing is emitted. -/
structure Behaviour.StandsIn (behaviour : Behaviour) : Prop where
  reacts : ∀ m c k emitted, c.type = .known k → (c.react m).2.outputs = .ok emitted →
    behaviour m c = c.react m
  silent : ∀ m c, (∃ name, c.type = .foreign name) ∨ (∃ e, (c.react m).2.outputs = .error e) →
    (behaviour m c).2.outputs = .ok none

/-- Components whose reaction fails do nothing at all. -/
def Behaviour.withoutFailures : Behaviour := fun m c =>
  match c.type, (c.react m).2.outputs with
  | .known _, .ok _ => c.react m
  | _, _ => (c, ⟨.ok none, none⟩)

theorem Behaviour.withoutFailures_standsIn : withoutFailures.StandsIn where
  reacts := by
    intro m c k emitted type succeeds
    simp only [withoutFailures, type, succeeds]
  silent := by
    intro m c idle
    unfold withoutFailures
    rcases idle with ⟨name, type⟩ | ⟨e, fails⟩
    · rw [type]
    · rw [fails]
      split <;> simp_all

namespace Component

variable {m : Moment} {c : Component} {behaviour : Behaviour}

/-- Lets a component act, with a behaviour in the place of its reaction. -/
def actAs (behaviour : Behaviour) (m : Moment) (c : Component) : Part :=
  let (c, effect) := behaviour m c
  match effect.outputs with
  | .ok emitted => ⟨{ c with outputs := c.published (emitted.getD []) }, effect.sent, none, none⟩
  | .error e => ⟨{ c with outputs := c.published [] }, effect.sent, some e.message, none⟩

/-- The turn of a component, with a behaviour in the place of its reaction. -/
def turnAs (behaviour : Behaviour) (m : Moment) (inputs : Except Fault Pins) (c : Component) :
    Part :=
  match inputs with
  | .error e => { component := c, fault := some e }
  | .ok inputs =>
    match { c with inputs }.limitHistory m.settings.historyLimit with
    | (.error e, c) => { component := c, fault := some e }
    | (.ok (), c) => c.actAs behaviour m

theorem actAs_react (m : Moment) (c : Component) : c.actAs (fun m c => c.react m) m = c.act m := rfl

/-- A turn comes to the component's acting, or it ends the tick before. In both cases the behaviour
has no part in what happens until then. -/
theorem turnAs_cases (m : Moment) (inputs : Except Fault Pins) (c : Component) :
    (∃ part : Part, part.fault.isSome = true ∧ part.failure = none ∧ c.turn m inputs = part ∧
      ∀ behaviour, c.turnAs behaviour m inputs = part) ∨
    (∃ ready : Component, ready.type = c.type ∧ c.turn m inputs = ready.act m ∧
      ∀ behaviour, c.turnAs behaviour m inputs = ready.actAs behaviour m) := by
  cases inputs with
  | error e => exact .inl ⟨_, rfl, rfl, rfl, fun _ => rfl⟩
  | ok pins =>
    -- what the limit of the history leaves of the component is what acts
    let limited := { c with inputs := pins }.limitHistory m.settings.historyLimit
    have split : limited = (limited.1, limited.2) := rfl
    unfold turnAs turn
    dsimp only
    cases result : limited.1 with
    | error e =>
      rw [result] at split
      change limitHistory _ _ = _ at split
      rw [split]
      exact .inl ⟨_, rfl, rfl, rfl, fun _ => rfl⟩
    | ok done =>
      rw [result] at split
      change limitHistory _ _ = _ at split
      rw [split]
      exact .inr ⟨limited.2, rfl, rfl, fun _ => rfl⟩

@[simp] theorem turnAs_react (m : Moment) (inputs : Except Fault Pins) (c : Component) :
    c.turnAs (fun m c => c.react m) m inputs = c.turn m inputs := by
  rcases turnAs_cases m inputs c with ⟨part, -, -, turn, as⟩ | ⟨ready, -, turn, as⟩
  · rw [as, turn]
  · rw [as, turn, actAs_react]

@[simp] theorem actAs_fault (behaviour : Behaviour) (m : Moment) (c : Component) :
    (c.actAs behaviour m).fault = none := by
  unfold actAs
  dsimp only
  split <;> rfl

/-- Whether a turn ends the tick is settled before the component behaves in any way. -/
theorem turnAs_fault (behaviour : Behaviour) (m : Moment) (inputs : Except Fault Pins)
    (c : Component) : (c.turnAs behaviour m inputs).fault = (c.turn m inputs).fault := by
  rcases turnAs_cases m inputs c with ⟨part, -, -, turn, as⟩ | ⟨ready, -, turn, as⟩
  · rw [as, turn]
  · rw [as, turn, actAs_fault, act_fault]

/-! ## §2 Failures -/

/-- An action without a failure is a reaction that succeeds. -/
theorem act_failure_eq_none_iff :
    (c.act m).failure = none ↔ ∃ emitted, (c.react m).2.outputs = .ok emitted := by
  unfold act
  dsimp only
  cases (c.react m).2.outputs with
  | ok emitted => simp
  | error e => simp

/-- A component that does not fail does not notice what stands in for the reactions of others. -/
theorem actAs_of_failure_eq_none (standsIn : behaviour.StandsIn) {k : Kind} (type : c.type = .known k)
    (h : (c.act m).failure = none) : c.actAs behaviour m = c.act m := by
  obtain ⟨emitted, succeeds⟩ := act_failure_eq_none_iff.1 h
  have same : behaviour m c = c.react m := standsIn.reacts m c k emitted type succeeds
  calc
    c.actAs behaviour m = c.actAs (fun m c => c.react m) m := by
      unfold actAs
      rw [same]
    _ = c.act m := actAs_react m c

theorem turnAs_of_failure_eq_none (standsIn : behaviour.StandsIn) {k : Kind}
    (type : c.type = .known k) {inputs : Except Fault Pins} (h : (c.turn m inputs).failure = none) :
    c.turnAs behaviour m inputs = c.turn m inputs := by
  rcases turnAs_cases m inputs c with ⟨part, -, -, turn, as⟩ | ⟨ready, kept, turn, as⟩
  · rw [as, turn]
  · rw [turn] at h
    rw [as, turn]
    exact actAs_of_failure_eq_none standsIn (kept.trans type) h

/-! ## §3 Outputs -/

/-- Whatever a component has emitted, after its turn it shows a signal on each output pin. -/
theorem turn_outputs {inputs : Except Fault Pins} (done : (c.turn m inputs).fault = none) :
    ∃ emitted, (c.turn m inputs).component.outputs = c.published emitted := by
  rcases turnAs_cases m inputs c with ⟨part, fault, -, turn, -⟩ | ⟨ready, kept, turn, -⟩
  · rw [turn] at done
    rw [done] at fault
    cases fault
  · rw [turn, act_component]
    refine ⟨ready.emitted m, ?_⟩
    unfold published
    rw [kept]

@[simp] theorem published_pins (c : Component) (emitted : Pins) :
    (c.published emitted).map Prod.fst = c.type.outputPins := by
  unfold published
  rw [List.map_map]
  exact List.map_id _

/-- What is published is normalised: null and the empty text do not occur. -/
theorem normal_of_mem_published {emitted : Pins} {p : String × Value} (h : p ∈ c.published emitted) :
    p.2 = .absent ∨ p.2.isPresent = true := by
  obtain ⟨pin, -, rfl⟩ := List.mem_map.1 h
  dsimp only [Value.asSignal]
  by_cases present : (emitted.read pin).isPresent = true
  · rw [if_pos present]
    exact .inr present
  · rw [if_neg present]
    exact .inl rfl

/-- A component that fails shows no signal. -/
theorem absent_of_failure {inputs : Except Fault Pins}
    (h : (c.turn m inputs).failure.isSome = true) :
    ∀ p ∈ (c.turn m inputs).component.outputs, p.2 = .absent := by
  rcases turnAs_cases m inputs c with ⟨part, -, none, turn, -⟩ | ⟨ready, -, turn, -⟩
  · rw [turn, none] at h
    cases h
  · rw [turn] at h ⊢
    -- nothing counts as emitted by a reaction that has failed
    unfold act at h ⊢
    dsimp only at h ⊢
    split at h
    · cases h
    · intro p hp
      obtain ⟨pin, -, rfl⟩ := List.mem_map.1 hp
      rfl

end Component

namespace Engine

variable {e : Engine} {c : Circuit} {winners : List Wire}

/-! ## §4 The Tick -/

/-- In the next tick the reaction of a component fails, or its type has none. -/
def Stalls (e : Engine) (c : Circuit) (x : Component) : Prop :=
  (∃ name, x.type = .foreign name) ∨
    ∃ winners, Delivery.winners c.wires = .ok winners ∧
      (e.turnOf c winners x).failure.isSome = true

/-- The components after the next tick when they behave in a given way. -/
def componentsAs (behaviour : Behaviour) (e : Engine) (c : Circuit) : Table Component :=
  match Delivery.winners c.wires with
  | .error _ => c.components
  | .ok winners =>
    (sweep (fun x => x.turnAs behaviour (e.advanced.moment c)
      (Delivery.inputs c.components e.published winners x)) c.components).components

/-- A tick is what comes of the components reacting. -/
theorem componentsAs_react (e : Engine) (c : Circuit) :
    e.componentsAs (fun m c => c.react m) c = (e.tick c).circuit.components := by
  unfold componentsAs
  cases hw : Delivery.winners c.wires with
  | error fault => rw [tick_circuit_of_error hw]
  | ok winners =>
    rw [tick_circuit hw]
    simp only [Component.turnAs_react]
    rfl

/-- A tick that goes through does so however the components behave. -/
theorem componentsAs_of_no_fault (behaviour : Behaviour) (hw : Delivery.winners c.wires = .ok winners)
    (done : (e.tick c).fault = none) :
    e.componentsAs behaviour c = c.components.map fun x =>
      (x.1, (x.2.turnAs behaviour (e.advanced.moment c)
        (Delivery.inputs c.components e.published winners x.2)).component) := by
  -- what ends a tick ends it before anything is behaved, so this sweep goes through as well
  have through : (sweep (fun x => x.turnAs behaviour (e.advanced.moment c)
      (Delivery.inputs c.components e.published winners x)) c.components).fault = none := by
    rw [sweep_fault_eq_none_iff]
    intro x hx
    rw [Component.turnAs_fault]
    exact turnOf_fault hw done hx
  unfold componentsAs
  rw [hw]
  exact sweep_components_of_no_fault through

/-- What a tick that goes through shows of each component. -/
theorem exists_outputs (done : (e.tick c).fault = none) {x : Value × Component}
    (hx : x ∈ (e.tick c).circuit.components) :
    ∃ (y : Component) (emitted : Pins), x.2.type = y.type ∧ x.2.outputs = y.published emitted := by
  obtain ⟨winners, hw⟩ := winners_of_tick done
  rw [tick_components hw done] at hx
  obtain ⟨y, hy, rfl⟩ := List.mem_map.1 hx
  obtain ⟨emitted, outputs⟩ := Component.turn_outputs (turnOf_fault hw done hy)
  exact ⟨y.2, emitted, congrArg Fixture.type (Component.turn_fixture _ _ y.2), outputs⟩

theorem tick_outputs_pins (done : (e.tick c).fault = none) {x : Value × Component}
    (hx : x ∈ (e.tick c).circuit.components) : x.2.outputs.map Prod.fst = x.2.type.outputPins := by
  obtain ⟨y, emitted, type, outputs⟩ := exists_outputs done hx
  rw [outputs, type, Component.published_pins]

theorem getElem?_tick_components (hw : Delivery.winners c.wires = .ok winners)
    (done : (e.tick c).fault = none) {i : Nat} {x : Value × Component}
    (hx : c.components[i]? = some x) :
    (e.tick c).circuit.components[i]? = some (x.1, (e.turnOf c winners x.2).component) := by
  rw [tick_components hw done, List.getElem?_map, hx]
  rfl

/-- A component whose reaction fails, or whose type has none, shows no signal after the tick. -/
theorem absent_of_stalls (done : (e.tick c).fault = none) {i : Nat} {x : Value × Component}
    (hx : c.components[i]? = some x) (stalls : e.Stalls c x.2) :
    ∃ y : Value × Component, (e.tick c).circuit.components[i]? = some y ∧ y.1 = x.1 ∧
      ∀ q ∈ y.2.outputs, q.2 = .absent := by
  obtain ⟨winners, hw⟩ := winners_of_tick done
  have place := getElem?_tick_components hw done hx
  refine ⟨_, place, rfl, ?_⟩
  rcases stalls with ⟨name, foreign⟩ | ⟨winners', hw', failure⟩
  · -- a foreign type has no output pins
    have pins := tick_outputs_pins done (List.mem_of_getElem? place)
    have kept : (e.turnOf c winners x.2).component.type = x.2.type :=
      congrArg Fixture.type (Component.turn_fixture _ _ x.2)
    rw [kept, foreign] at pins
    rw [List.map_eq_nil_iff.1 pins]
    intro q hq
    cases hq
  · rw [hw] at hw'
    cases hw'
    exact Component.absent_of_failure failure

/-- A component whose reaction succeeds ends the tick as it does when others behave differently. -/
theorem componentsAs_of_not_stalls (done : (e.tick c).fault = none) {behaviour : Behaviour}
    (standsIn : behaviour.StandsIn) {i : Nat} {x : Value × Component}
    (hx : c.components[i]? = some x) (runs : ¬ e.Stalls c x.2) :
    (e.componentsAs behaviour c)[i]? = (e.tick c).circuit.components[i]? := by
  obtain ⟨winners, hw⟩ := winners_of_tick done
  have noFailure : (e.turnOf c winners x.2).failure = none := by
    by_contra h
    exact runs (.inr ⟨winners, hw, Option.isSome_iff_ne_none.2 h⟩)
  rw [componentsAs_of_no_fault behaviour hw done, List.getElem?_map, hx,
    getElem?_tick_components hw done hx]
  cases type : x.2.type with
  | foreign name => exact absurd (.inl ⟨name, type⟩) runs
  | known k =>
    have same := Component.turnAs_of_failure_eq_none standsIn type noFailure
    exact congrArg (fun part : Part => some (x.1, part.component)) same

/-- What is published under the id of a component is what the component shows. -/
theorem publishedValue_of_find? (ids : ∀ x ∈ c.components, x.1.key? = x.2.id.key?)
    (done : (e.tick c).fault = none) {key : Value} {x : Component}
    (found : (e.tick c).circuit.components.find? key = some x) (pin : String) :
    (e.tick c).engine.publishedValue x.id (.text pin) = .ok (x.outputs.read pin) := by
  obtain ⟨k, member, same⟩ := Table.mem_of_find? found
  have own : k.key? = x.id.key? := tick_ids ids (k, x) member
  have sameId : x.id.sameScalar key = true := (Value.sameScalar_congr_key? own key).symm.trans same
  have shown : (e.tick c).engine.published.find? x.id = some x.outputs := by
    rw [tick_find?_published ids done, Table.find?_congr sameId, found]
    rfl
  obtain ⟨value, got, read⟩ := Published.get?_of_isKey (p := (e.tick c).engine.published)
    (Value.isKey_of_sameScalar sameId) (Value.isKey_text pin)
  unfold publishedValue
  rw [got]
  change Except.ok (value.getD .absent) = _
  rw [read]
  unfold Published.value
  rw [shown]
  rfl

/-- **Publishing**: after a tick that goes through every component shows a signal on each output pin
of its type and on no other; these signals, and no others, are published, under the id of the
component; none of them is null or an empty text. A component whose reaction fails, or whose type has
none, shows no signal at all, and every other component ends the tick as it does whatever stands in
for the reactions that fail, as long as it emits nothing. -/
theorem tick_publishes (ids : ∀ x ∈ c.components, x.1.key? = x.2.id.key?)
    (done : (e.tick c).fault = none) :
    let after := (e.tick c).circuit.components
    let published := (e.tick c).engine.published
    (∀ x ∈ after, x.2.outputs.map Prod.fst = x.2.type.outputPins) ∧
      (published.flatMap fun p => p.2.map fun q => (p.1, q.1)) =
        (after.flatMap fun x => x.2.type.outputPins.map fun pin => (x.2.id, pin)) ∧
      (∀ key x, after.find? key = some x → ∀ pin ∈ x.type.outputPins,
        (e.tick c).engine.publishedValue x.id (.text pin) = .ok (x.outputs.read pin)) ∧
      (∀ p ∈ published, ∀ q ∈ p.2, q.2 = .absent ∨ q.2.isPresent = true) ∧
      (∀ (i : Nat) (x : Value × Component), c.components[i]? = some x → e.Stalls c x.2 →
        ∃ y : Value × Component, after[i]? = some y ∧ y.1 = x.1 ∧
          ∀ q ∈ y.2.outputs, q.2 = .absent) ∧
      (∀ behaviour : Behaviour, behaviour.StandsIn → ∀ (i : Nat) (x : Value × Component),
        c.components[i]? = some x → ¬ e.Stalls c x.2 →
          (e.componentsAs behaviour c)[i]? = after[i]?) := by
  intro after published
  have all : published = after.map fun x => (x.2.id, x.2.outputs) := tick_published done
  refine ⟨fun x => tick_outputs_pins done, ?keys, ?values, ?normal, ?stalled, ?others⟩
  case keys =>
    rw [all, List.flatMap_map]
    refine List.flatMap_congr fun x hx => ?_
    rw [← tick_outputs_pins done hx, List.map_map]
    rfl
  case values => exact fun key x found pin _ => publishedValue_of_find? ids done found pin
  case normal =>
    intro p hp q hq
    rw [all] at hp
    obtain ⟨x, hx, rfl⟩ := List.mem_map.1 hp
    obtain ⟨y, emitted, -, outputs⟩ := exists_outputs done hx
    dsimp only at hq
    rw [outputs] at hq
    exact Component.normal_of_mem_published hq
  case stalled => exact fun i x hx stalls => absent_of_stalls done hx stalls
  case others => exact fun behaviour standsIn i x hx => componentsAs_of_not_stalls done standsIn hx

/-- A die that cannot be rolled, for its upper bound lies beyond 64 bits. -/
def brokenDie : Component :=
  ⟨.text "In1", .known .random, [(.text "max", .int (2 ^ 63))], .null, [],
    [("VALUE_OUT", .int 5)], ⟨none, .absent, none⟩⟩

/-- In the tick in which the die fails, the magnitude takes what was published before, as it does
when the die emits nothing. -/
theorem tick_publishes_around_brokenDie :
    let c := aroundWire [(.text "In1", brokenDie), (.text "Abs1", magnitude)]
    (∀ x ∈ c.components, x.1.key? = x.2.id.key?) ∧ (afterThreeTicks.tick c).fault = none ∧
      (∃ y : Value × Component, (afterThreeTicks.tick c).circuit.components[0]? = some y ∧
        ∀ q ∈ y.2.outputs, q.2 = .absent) ∧
      (afterThreeTicks.componentsAs .withoutFailures c)[1]? =
        (afterThreeTicks.tick c).circuit.components[1]? := by
  intro c
  have ids : ∀ x ∈ c.components, x.1.key? = x.2.id.key? := by
    simp [c, aroundWire, brokenDie, magnitude]
  have done : (afterThreeTicks.tick c).fault = none := rfl
  obtain ⟨-, -, -, -, stalled, others⟩ := tick_publishes ids done
  have stalls : afterThreeTicks.Stalls c brokenDie := .inr ⟨_, rfl, rfl⟩
  have runs : ¬ afterThreeTicks.Stalls c magnitude := by
    rintro (⟨name, foreign⟩ | ⟨winners, hw, failure⟩)
    · cases foreign
    · cases hw
      cases failure
  obtain ⟨y, there, -, absent⟩ := stalled 0 (.text "In1", brokenDie) rfl stalls
  exact ⟨ids, done, ⟨y, there, absent⟩,
    others _ Behaviour.withoutFailures_standsIn 1 (.text "Abs1", magnitude) rfl runs⟩

end Engine

end TickCircuit

import TickCircuit.Proofs.Circuit.Integrity
import TickCircuit.Proofs.Engine.Delivery
import TickCircuit.Proofs.Engine.Turn

/-!
# Ticks and Runs

A tick advances the clock and then sweeps over the components. What it does to the circuit is what
the sweep does to the components (`tick_circuit`); wires and counters stay, and of each component the
fixture stays (`tick_fixtures`), whether or not the tick ends in a fault.
-/

namespace TickCircuit.Engine

variable {e : Engine} {c : Circuit} {winners : List Wire}

/-- The engine with its clock set to the next tick. -/
def advanced (e : Engine) : Engine := { e with ticks := e.ticks + 1, elapsed := e.elapsed + e.interval }

/-- The turn of a component in the next tick. -/
def turnOf (e : Engine) (c : Circuit) (winners : List Wire) (x : Component) : Part :=
  x.turn (e.advanced.moment c) (Delivery.inputs c.components e.published winners x)

/-! ## §1 The Start -/

/-- An engine that is started has its settings and a tick length, and everything else is still to come. -/
theorem exists_interval_of_start {settings : EngineSettings} (h : Engine.start settings = .ok e) :
    ∃ interval, e = ⟨settings, interval, 0, 0.0, [], .empty, []⟩ := by
  unfold start at h
  split at h
  · split at h
    · cases h
      exact ⟨_, rfl⟩
    · cases h
  · cases h
    exact ⟨_, rfl⟩

/-- When an engine is started nothing has been published or sent. -/
theorem start_signals {settings : EngineSettings} (h : Engine.start settings = .ok e) :
    e.published = [] ∧ e.broadcast = .empty := by
  obtain ⟨_, rfl⟩ := exists_interval_of_start h
  exact ⟨rfl, rfl⟩

theorem start_settings {settings : EngineSettings} (h : Engine.start settings = .ok e) :
    e.settings = settings := by
  obtain ⟨_, rfl⟩ := exists_interval_of_start h
  rfl

theorem start_ticks {settings : EngineSettings} (h : Engine.start settings = .ok e) : e.ticks = 0 := by
  obtain ⟨_, rfl⟩ := exists_interval_of_start h
  rfl

/-- The engine at the start of a run with the standard settings. -/
def standardStart : Engine := ⟨.standard, 100.0, 0, 0.0, [], .empty, []⟩

theorem start_standard : Engine.start .standard = .ok standardStart := rfl

/-! ## §2 One Tick -/

theorem tick_circuit (h : Delivery.winners c.wires = .ok winners) :
    (e.tick c).circuit =
      { c with components := (sweep (e.turnOf c winners) c.components).components } := by
  unfold tick
  simp only [h]
  split <;> rfl

theorem tick_fault (h : Delivery.winners c.wires = .ok winners) :
    (e.tick c).fault = (sweep (e.turnOf c winners) c.components).fault := by
  unfold tick
  simp only [h]
  split
  · next fault hf => exact hf.symm
  · next hf => exact hf.symm

theorem tick_circuit_of_error {fault : Fault} (h : Delivery.winners c.wires = .error fault) :
    (e.tick c).circuit = c := by
  unfold tick
  simp only [h]

/-- A tick that ends without a fault has found the wires that count. -/
theorem winners_of_tick (h : (e.tick c).fault = none) :
    ∃ winners, Delivery.winners c.wires = .ok winners := by
  cases hw : Delivery.winners c.wires with
  | ok winners => exact ⟨winners, rfl⟩
  | error fault =>
    unfold tick at h
    simp only [hw] at h
    cases h

/-- What a tick without a fault makes of the components. -/
theorem tick_components (hw : Delivery.winners c.wires = .ok winners)
    (h : (e.tick c).fault = none) :
    (e.tick c).circuit.components =
      c.components.map fun x => (x.1, (e.turnOf c winners x.2).component) := by
  rw [tick_fault hw] at h
  rw [tick_circuit hw]
  exact sweep_components_of_no_fault h

/-- The turns of a tick without a fault are without faults. -/
theorem turnOf_fault (hw : Delivery.winners c.wires = .ok winners) (h : (e.tick c).fault = none)
    {x : Value × Component} (member : x ∈ c.components) :
    (e.turnOf c winners x.2).fault = none := by
  rw [tick_fault hw] at h
  exact (sweep_fault_eq_none_iff _ _).1 h x member

/-- In a lawful circuit the wires that count are found, and every component gets a turn with what is
delivered to it. -/
theorem turnOf_of_lawful (lawful : c.Lawful) (e : Engine) :
    ∃ winners, Delivery.winners c.wires = .ok winners ∧ ∀ x ∈ c.components,
      e.turnOf c winners x.2 = x.2.turn (e.advanced.moment c)
        (.ok (x.2.type.inputPins.map fun pin => (pin, c.delivered e.published x.2.id pin))) := by
  obtain ⟨winners, hw, first⟩ := Delivery.find?_winners lawful.wires
  refine ⟨winners, hw, fun x hx => ?_⟩
  rw [turnOf, Delivery.inputs_eq_delivered lawful.wires _ first (lawful.ids x hx).1]

/-- A tick that ends without a fault publishes the outputs of all components. -/
theorem tick_published (h : (e.tick c).fault = none) :
    (e.tick c).engine.published =
      (e.tick c).circuit.components.map fun x => (x.2.id, x.2.outputs) := by
  obtain ⟨winners, hw⟩ := winners_of_tick h
  rw [tick_fault hw] at h
  unfold tick
  simp only [hw]
  split
  · next fault hf => exact absurd (hf.symm.trans h) (by simp)
  · exact sweep_published_of_no_fault h

/-- The engine after a tick that goes through: what was shown is published, and what was sent in the
tick can be heard. -/
theorem tick_engine (hw : Delivery.winners c.wires = .ok winners) (h : (e.tick c).fault = none) :
    let swept := sweep (e.turnOf c winners) c.components
    ∃ reported, (e.tick c).engine = { e.advanced with
      reported, published := swept.published, broadcast := (swept.broadcast e.broadcast).swap } := by
  intro swept
  rw [tick_fault hw] at h
  unfold tick
  simp only [hw]
  split
  · next fault hf => exact absurd (hf.symm.trans h) (by simp)
  · exact ⟨_, rfl⟩

/-- After a tick that ends in a fault nothing more is published or heard than before; what was sent
before the fault waits. -/
theorem tick_engine_of_fault (hw : Delivery.winners c.wires = .ok winners)
    (h : (e.tick c).fault.isSome = true) :
    let swept := sweep (e.turnOf c winners) c.components
    ∃ reported, (e.tick c).engine = { e.advanced with
      reported, broadcast := swept.broadcast e.broadcast } := by
  intro swept
  rw [tick_fault hw] at h
  unfold tick
  simp only [hw]
  split
  · exact ⟨_, rfl⟩
  · next hf =>
    rw [show (sweep (e.turnOf c winners) c.components).fault = none from hf] at h
    cases h

theorem tick_engine_of_error {fault : Fault} (h : Delivery.winners c.wires = .error fault) :
    (e.tick c).engine = e.advanced ∧ (e.tick c).fault = some fault := by
  unfold tick
  simp only [h]
  exact ⟨rfl, trivial⟩

/-- Apart from the clock, a tick changes only the signals under way and what has been reported. -/
theorem tick_engine_cases (e : Engine) (c : Circuit) :
    ∃ reported published broadcast,
      (e.tick c).engine = { e.advanced with reported, published, broadcast } := by
  cases hw : Delivery.winners c.wires with
  | error fault => exact ⟨_, _, _, (tick_engine_of_error hw).1⟩
  | ok winners =>
    cases ended : (e.tick c).fault with
    | none =>
      obtain ⟨reported, engine⟩ := tick_engine hw ended
      exact ⟨_, _, _, engine⟩
    | some fault =>
      obtain ⟨reported, engine⟩ := tick_engine_of_fault hw (by rw [ended]; rfl)
      exact ⟨_, _, _, engine⟩

theorem tick_settings (e : Engine) (c : Circuit) : (e.tick c).engine.settings = e.settings := by
  obtain ⟨_, _, _, engine⟩ := tick_engine_cases e c
  rw [engine]
  rfl

theorem tick_interval (e : Engine) (c : Circuit) : (e.tick c).engine.interval = e.interval := by
  obtain ⟨_, _, _, engine⟩ := tick_engine_cases e c
  rw [engine]
  rfl

theorem tick_ticks (e : Engine) (c : Circuit) : (e.tick c).engine.ticks = e.ticks + 1 := by
  obtain ⟨_, _, _, engine⟩ := tick_engine_cases e c
  rw [engine]
  rfl

/-- How many components have their turn in the next tick. -/
def served (e : Engine) (c : Circuit) : Nat :=
  match Delivery.winners c.wires with
  | .ok winners => (sweep (e.turnOf c winners) c.components).parts.length
  | .error _ => 0

/-- All have it, unless the tick ends in a fault. -/
theorem served_of_no_fault (h : (e.tick c).fault = none) : e.served c = c.components.length := by
  obtain ⟨winners, hw⟩ := winners_of_tick h
  rw [tick_fault hw] at h
  rw [served, hw]
  dsimp only
  rw [sweep_parts_of_no_fault h, List.length_map]

/-- A component that has its turn shows its inputs after the tick. -/
theorem tick_inputs (hw : Delivery.winners c.wires = .ok winners) {i : Nat} (hi : i < e.served c) :
    ∃ x y, c.components[i]? = some x ∧ (e.tick c).circuit.components[i]? = some y ∧ y.1 = x.1 ∧
      ∀ pins, Delivery.inputs c.components e.published winners x.2 = .ok pins → y.2.inputs = pins := by
  rw [served, hw] at hi
  dsimp only at hi
  have bound : i < c.components.length := by
    have fewer := congrArg List.length (sweep_parts (e.turnOf c winners) c.components)
    rw [List.length_map, List.length_take] at fewer
    omega
  refine ⟨c.components[i], (c.components[i].1, (e.turnOf c winners c.components[i].2).component),
    List.getElem?_eq_getElem bound, ?_, rfl, fun pins received => ?_⟩
  · rw [tick_circuit hw]
    dsimp only
    rw [sweep_components, List.getElem?_append_left (by simpa using ⟨hi, bound⟩), List.getElem?_map,
      List.getElem?_take_of_lt hi, List.getElem?_eq_getElem bound]
    rfl
  · dsimp only
    rw [turnOf, received, Component.turn_inputs]

/-! ## §3 What a Tick Leaves Alone -/

@[simp] theorem tick_wires (e : Engine) (c : Circuit) : (e.tick c).circuit.wires = c.wires := by
  cases h : Delivery.winners c.wires with
  | ok winners => rw [tick_circuit h]
  | error fault => rw [tick_circuit_of_error h]

@[simp] theorem tick_counters (e : Engine) (c : Circuit) :
    (e.tick c).circuit.counters = c.counters := by
  cases h : Delivery.winners c.wires with
  | ok winners => rw [tick_circuit h]
  | error fault => rw [tick_circuit_of_error h]

@[simp] theorem tick_wireCounter (e : Engine) (c : Circuit) :
    (e.tick c).circuit.wireCounter = c.wireCounter := by
  cases h : Delivery.winners c.wires with
  | ok winners => rw [tick_circuit h]
  | error fault => rw [tick_circuit_of_error h]

/-- Every component keeps its place, its key and its fixture. -/
theorem tick_fixtures (e : Engine) (c : Circuit) :
    (e.tick c).circuit.components.map (fun x => (x.1, x.2.fixture)) =
      c.components.map fun x => (x.1, x.2.fixture) := by
  cases h : Delivery.winners c.wires with
  | ok winners =>
    rw [tick_circuit h]
    exact sweep_view _ _ Component.fixture fun x => Component.turn_fixture _ _ x
  | error fault => rw [tick_circuit_of_error h]

/-- In a lawful circuit a component that has its turn shows what was delivered to it. -/
theorem tick_inputs_of_lawful (lawful : c.Lawful) {i : Nat} (hi : i < e.served c)
    {y : Value × Component} (hy : (e.tick c).circuit.components[i]? = some y) :
    y.2.inputs =
      y.2.type.inputPins.map fun pin => (pin, c.delivered e.published y.2.id pin) := by
  obtain ⟨winners, hw, first⟩ := Delivery.find?_winners lawful.wires
  obtain ⟨x, y', hx, hy', -, received⟩ := tick_inputs hw hi
  rw [hy] at hy'
  cases hy'
  have kept := congrArg (·[i]?) (tick_fixtures e c)
  rw [List.getElem?_map, List.getElem?_map, hx, hy] at kept
  have fixture : y.2.fixture = x.2.fixture := congrArg Prod.snd (Option.some.inj kept)
  have id : y.2.id = x.2.id := congrArg Fixture.id fixture
  have type : y.2.type = x.2.type := congrArg Fixture.type fixture
  rw [id, type]
  exact received _ (Delivery.inputs_eq_delivered lawful.wires _ first
    (lawful.ids x (List.mem_of_getElem? hx)).1)

/-- Components are stored under their ids after a tick if they were before. -/
theorem tick_ids (ids : ∀ x ∈ c.components, x.1.key? = x.2.id.key?) :
    ∀ x ∈ (e.tick c).circuit.components, x.1.key? = x.2.id.key? := by
  intro x hx
  have same := tick_fixtures e c
  have member : (x.1, x.2.fixture) ∈ c.components.map fun x => (x.1, x.2.fixture) :=
    same ▸ List.mem_map_of_mem hx
  obtain ⟨y, hy, equal⟩ := List.mem_map.1 member
  obtain ⟨key, fixture⟩ := Prod.mk.inj equal
  have id : y.2.id = x.2.id := congrArg Fixture.id fixture
  rw [← key, ← id]
  exact ids y hy

/-- A tick leaves the components stored under their ids, no two under the same one. -/
theorem tick_indexed (indexed : c.Indexed) : (e.tick c).circuit.Indexed where
  ids := tick_ids indexed.ids
  distinct := by
    have keys := congrArg (List.map Prod.fst) (tick_fixtures e c)
    rw [List.map_map, List.map_map] at keys
    change (e.tick c).circuit.components.keys = c.components.keys at keys
    rw [Table.distinct_iff_keys, keys]
    exact Table.distinct_iff_keys.1 indexed.distinct

/-- What a tick that goes through has published under a key is what the component there shows. -/
theorem tick_find?_published (ids : ∀ x ∈ c.components, x.1.key? = x.2.id.key?)
    (done : (e.tick c).fault = none) (key : Value) :
    (e.tick c).engine.published.find? key =
      ((e.tick c).circuit.components.find? key).map Component.outputs := by
  rw [tick_published done]
  exact Table.find?_map_key (g := Component.id) Component.outputs (tick_ids ids) key

theorem samePlan_of_fixtures {c' : Circuit}
    (fixtures : c'.components.map (fun x => (x.1, x.2.fixture)) =
      c.components.map fun x => (x.1, x.2.fixture)) (wires : c'.wires = c.wires)
    (counters : c'.counters = c.counters) (wireCounter : c'.wireCounter = c.wireCounter) :
    c.SamePlan c' where
  roster := by
    have kept := congrArg (List.map fun x => (x.1, x.2.id, x.2.type)) fixtures
    rw [List.map_map, List.map_map] at kept
    exact kept
  wires := wires
  counters := counters
  wireCounter := wireCounter

theorem tick_samePlan (e : Engine) (c : Circuit) : c.SamePlan (e.tick c).circuit :=
  samePlan_of_fixtures (tick_fixtures e c) (tick_wires e c) (tick_counters e c)
    (tick_wireCounter e c)

theorem run_samePlan (e : Engine) (c : Circuit) (count : Nat) :
    c.SamePlan (e.run c count).circuit := by
  induction count generalizing e c with
  | zero => exact .refl c
  | succ count ih =>
    rw [run]
    dsimp only
    split
    · exact tick_samePlan e c
    · exact (tick_samePlan e c).trans (ih (e.tick c).engine (e.tick c).circuit)

/-! ## §4 Runs -/

theorem run_of_fault (h : (e.tick c).fault.isSome = true) (k : Nat) :
    e.run c (k + 1) = e.tick c := by
  rw [run]
  exact if_pos h

theorem run_of_no_fault (h : (e.tick c).fault = none) (k : Nat) :
    let last := (e.tick c).engine.run (e.tick c).circuit k
    e.run c (k + 1) = { last with log := (e.tick c).log ++ last.log } := by
  rw [run]
  refine if_neg ?_
  rw [h]
  exact Bool.false_ne_true

/-- A run of one tick more is a further tick after the run. -/
theorem run_succ {k : Nat} (h : (e.run c k).fault = none) :
    (e.run c (k + 1)).circuit = ((e.run c k).engine.tick (e.run c k).circuit).circuit ∧
      (e.run c (k + 1)).engine = ((e.run c k).engine.tick (e.run c k).circuit).engine ∧
      (e.run c (k + 1)).fault = ((e.run c k).engine.tick (e.run c k).circuit).fault := by
  induction k generalizing e c with
  | zero =>
    -- a single tick is a run even if it ends in a fault
    cases first : (e.tick c).fault with
    | none =>
      rw [run_of_no_fault first]
      exact ⟨rfl, rfl, first.symm⟩
    | some fault =>
      rw [run_of_fault (by rw [first]; rfl)]
      exact ⟨rfl, rfl, rfl⟩
  | succ k ih =>
    cases first : (e.tick c).fault with
    | none =>
      rw [run_of_no_fault first] at h
      rw [run_of_no_fault first, run_of_no_fault first]
      exact ih h
    | some fault =>
      rw [run_of_fault (by rw [first]; rfl), first] at h
      cases h

/-- A run that has ended in a fault stays where it ended. -/
theorem run_succ_of_fault {k : Nat} (h : (e.run c k).fault.isSome = true) :
    e.run c (k + 1) = e.run c k := by
  induction k generalizing e c with
  | zero => cases h
  | succ k ih =>
    cases first : (e.tick c).fault with
    | none =>
      rw [run_of_no_fault first] at h
      rw [run_of_no_fault first (k + 1), run_of_no_fault first k, ih h]
    | some fault =>
      have ends : (e.tick c).fault.isSome = true := by rw [first]; rfl
      rw [run_of_fault ends, run_of_fault ends]

/-- A run without a fault has had none before. -/
theorem run_of_le {k n : Nat} (le : k ≤ n) (whole : (e.run c n).fault = none) :
    (e.run c k).fault = none := by
  induction n, le using Nat.le_induction with
  | base => exact whole
  | succ n _ ih =>
    refine ih ?_
    cases ended : (e.run c n).fault with
    | none => rfl
    | some fault =>
      rw [run_succ_of_fault (by rw [ended]; rfl), ended] at whole
      cases whole

/-- It has run all its ticks. -/
theorem run_ticks {n : Nat} (whole : (e.run c n).fault = none) :
    (e.run c n).engine.ticks = e.ticks + n := by
  induction n with
  | zero => rfl
  | succ n ih =>
    have before := run_of_le (Nat.le_succ n) whole
    rw [(run_succ before).2.1, tick_ticks, ih before, Nat.add_assoc]

/-! ## §5 Setting Back -/

theorem resetAll_fixtures (t : Table Component) :
    (resetAll t).1.map (fun x => (x.1, x.2.fixture)) = t.map fun x => (x.1, x.2.fixture) := by
  induction t with
  | nil => rfl
  | cons x rest ih =>
    obtain ⟨key, x⟩ := x
    rw [resetAll]
    split
    · rfl
    · next fresh isReset =>
      rw [List.map_cons, List.map_cons, ih, Component.reset_fixture isReset]

theorem reset_samePlan (e : Engine) (c : Circuit) : c.SamePlan (e.reset c).circuit :=
  samePlan_of_fixtures (resetAll_fixtures c.components) rfl rfl rfl

end TickCircuit.Engine

import TickCircuit.Proofs.Engine.Isolation
import TickCircuit.Proofs.Engine.Meaning

/-!
# Convergence of Acyclic Circuits

A tick carries signals over one wire. So in a circuit of combinational components whose wires form no
cycle, a component shows its combinational meaning as soon as there have been more ticks than the
longest path to it has wires, whatever was published before the first tick, and shows it from then on
(`run_converges`). The induction is on the number of ticks: a path to a driver of a component is
shorter than the longest path to the component itself.
-/

namespace TickCircuit

namespace Circuit

/-! ## §1 Combinational Circuits -/

/-- All components are combinational. -/
def Combinational (c : Circuit) : Prop :=
  ∀ e ∈ c.components, e.2.type.isCombinational = true

/-- What a pin receives is what is delivered when the outputs are those that were published. -/
theorem delivered_eq_received {c : Circuit} {x : Component} {pin : String} {published : Published}
    {outputs : Component → Pins}
    (h : ∀ y out, c.source? x pin = some (y, out) → ∀ key, c.components.find? key = some y →
      published.find? key = some (outputs y)) :
    c.delivered published x.id pin = c.received outputs x pin := by
  unfold delivered received
  -- the cases in which nothing arrives: no wire, or no component at its start
  cases first : c.wires.find? (·.feeds x.id (.text pin)) with
  | none => simp only [source?, first, Option.bind_none, bind]
  | some w =>
    cases found : c.components.find? w.source with
    | none =>
      simp only [source?, first, found, Option.bind_some, Option.bind_none, bind, Table.contains]
      rfl
    | some y =>
      have source : c.source? x pin = some (y, w.sourcePin) := by
        simp only [source?, first, found, Option.bind_some, bind, pure]
      have shown := h y w.sourcePin source w.source found
      have value : published.value w.source w.sourcePin = (outputs y).signalAt w.sourcePin := by
        unfold Published.value Pins.signalAt Pins.read
        rw [shown]
        cases w.sourcePin <;> rfl
      simp only [source, Table.contains, found, Option.isSome_some, if_true, value]

end Circuit

namespace Engine

variable {e : Engine} {c : Circuit}

/-! ## §2 One Tick -/

/-- In a tick of combinational components each component responds to what is delivered to it, and
none ends the tick. -/
theorem tick_combinational (lawful : c.Lawful) (combinational : c.Combinational) (e : Engine)
    (m : Moment) :
    (e.tick c).fault = none ∧ ∃ f : Component → Component,
      (e.tick c).circuit.components = c.components.map (fun y => (y.1, f y.2)) ∧
      (∀ x, (f x).fixture = x.fixture) ∧
      ∀ y ∈ c.components, (f y.2).outputs = y.2.respond m
        (y.2.type.inputPins.map fun pin => (pin, c.delivered e.published y.2.id pin)) := by
  obtain ⟨winners, hw, turn⟩ := turnOf_of_lawful lawful e
  have noFault : (e.tick c).fault = none := by
    rw [tick_fault hw, sweep_fault_eq_none_iff]
    intro y hy
    rw [turn y hy]
    exact (Component.turn_of_isCombinational (combinational y hy) _ _).1
  refine ⟨noFault, fun x => (e.turnOf c winners x).component, tick_components hw noFault,
    fun x => Component.turn_fixture _ _ x, fun y hy => ?_⟩
  dsimp only
  rw [turn y hy, (Component.turn_of_isCombinational (combinational y hy) _ _).2]
  exact Component.respond_congr (combinational y hy) rfl _ _ _

/-! ## §3 Runs -/

/-- What `k` ticks have made of a circuit of combinational components: each component has become
another one with the same fixture, and it shows its meaning if no path to it has as many as `k`
wires. -/
structure Settled (c : Circuit) (m : Moment) (acyclic : c.Acyclic) (k : Nat) (t : Ticked)
    (f : Component → Component) : Prop where
  noFault : t.fault = none
  wires : t.circuit.wires = c.wires
  components : t.circuit.components = c.components.map fun y => (y.1, f y.2)
  fixture : ∀ x, (f x).fixture = x.fixture
  published : 0 < k → t.engine.published = t.circuit.components.map fun y => (y.2.id, y.2.outputs)
  meant : ∀ y ∈ c.components, (∀ n, c.Path n y.2 → n < k) → (f y.2).outputs = c.meaning m acyclic y.2

theorem settled_zero (m : Moment) (acyclic : c.Acyclic) (e : Engine) :
    Settled c m acyclic 0 (e.run c 0) fun x => x where
  noFault := rfl
  wires := rfl
  components := (List.map_id _).symm
  fixture := fun _ => rfl
  published := fun h => absurd h (Nat.lt_irrefl 0)
  meant := by
    intro y _ short
    obtain ⟨n, path⟩ := acyclic.exists_path y.2
    exact absurd (short n path) (Nat.not_lt_zero n)

section Step

variable {m : Moment} {acyclic : c.Acyclic} {k : Nat} {t : Ticked} {f : Component → Component}

theorem Settled.lawful (h : Settled c m acyclic k t f) (lawful : c.Lawful) : t.circuit.Lawful where
  ids := by
    rw [h.components]
    intro e he
    obtain ⟨y, hy, rfl⟩ := List.mem_map.1 he
    have id : (f y.2).id = y.2.id := congrArg Fixture.id (h.fixture y.2)
    dsimp only
    rw [id]
    exact lawful.ids y hy
  wires := h.wires ▸ lawful.wires

theorem Settled.combinational (h : Settled c m acyclic k t f) (combinational : c.Combinational) :
    t.circuit.Combinational := by
  rw [Circuit.Combinational, h.components]
  intro e he
  obtain ⟨y, hy, rfl⟩ := List.mem_map.1 he
  have type : (f y.2).type = y.2.type := congrArg Fixture.type (h.fixture y.2)
  dsimp only
  rw [type]
  exact combinational y hy

/-- What was published in the last tick is found under every key of a component. -/
theorem Settled.find?_published (h : Settled c m acyclic k t f) (lawful : c.Lawful) (later : 0 < k)
    {key : Value} {y : Component} (found : c.components.find? key = some y) :
    t.engine.published.find? key = some (f y).outputs := by
  rw [h.published later, h.components, List.map_map]
  have ids : ∀ e ∈ c.components, e.1.key? = (f e.2).id.key? := by
    intro e he
    rw [show (f e.2).id = e.2.id from congrArg Fixture.id (h.fixture e.2)]
    exact (lawful.ids e he).2
  have shown := Table.find?_map_key (g := fun x => (f x).id) (fun x => (f x).outputs) ids key
  rw [found] at shown
  exact shown

/-- The step of the induction: a driver of a component has shorter paths than the component, so it
shows its meaning one tick earlier. -/
theorem Settled.delivered (h : Settled c m acyclic k t f) (lawful : c.Lawful)
    {x : Component} (short : ∀ n, c.Path n x → n < k + 1) {pin : String}
    (member : pin ∈ x.type.inputPins) :
    t.circuit.delivered t.engine.published x.id pin = c.received (c.meaning m acyclic) x pin := by
  have ids (id : Value) : t.circuit.components.contains id = c.components.contains id := by
    rw [h.components, Table.contains_map]
  rw [Circuit.delivered_congr ids (fun id pin => by rw [h.wires])]
  refine Circuit.delivered_eq_received fun y out source key found => ?_
  -- with a driver there is a path of at least one wire, so this is not the first tick
  have drives : c.Drives y x := ⟨pin, member, out, source⟩
  have shorter : ∀ n, c.Path n y → n < k := fun n path =>
    Nat.lt_of_succ_lt_succ (short (n + 1) (path.next drives))
  obtain ⟨n, path⟩ := acyclic.exists_path y
  have later : 0 < k := Nat.lt_of_le_of_lt (Nat.zero_le n) (shorter n path)
  obtain ⟨key', there, -⟩ := Table.mem_of_find? found
  rw [h.find?_published lawful later found, h.meant _ there shorter]

end Step

/-- A further tick. -/
theorem settled_succ {m : Moment} {acyclic : c.Acyclic} {k : Nat} {f : Component → Component}
    (lawful : c.Lawful) (combinational : c.Combinational)
    (h : Settled c m acyclic k (e.run c k) f) :
    ∃ g, Settled c m acyclic (k + 1) (e.run c (k + 1)) g := by
  obtain ⟨circuit, engine, fault⟩ := run_succ h.noFault
  obtain ⟨noFault, g, components, fixtures, outputs⟩ := tick_combinational (h.lawful lawful)
    (h.combinational combinational) (e.run c k).engine m
  refine ⟨fun x => g (f x), ?_⟩
  exact {
    noFault := fault.trans noFault
    wires := by rw [circuit, tick_wires, h.wires]
    components := by
      rw [circuit, components, h.components, List.map_map]
      rfl
    fixture := fun x => (fixtures (f x)).trans (h.fixture x)
    published := fun _ => by rw [engine, tick_published noFault, circuit]
    meant := by
      intro y hy short
      have id : (f y.2).id = y.2.id := congrArg Fixture.id (h.fixture y.2)
      have type : (f y.2).type = y.2.type := congrArg Fixture.type (h.fixture y.2)
      have member : (y.1, f y.2) ∈ (e.run c k).circuit.components := by
        rw [h.components]
        exact List.mem_map_of_mem hy
      -- the drivers of `y` have shorter paths, so what they show is meant already
      calc (g (f y.2)).outputs
        _ = (f y.2).respond m ((f y.2).type.inputPins.map fun pin =>
              (pin, (e.run c k).circuit.delivered (e.run c k).engine.published (f y.2).id pin)) :=
            outputs _ member
        _ = (f y.2).respond m (c.inputsFrom (c.meaning m acyclic) y.2) := by
            rw [id, type]
            refine congrArg _ (List.map_congr_left fun pin declared => ?_)
            rw [h.delivered lawful short declared]
        _ = y.2.respond m (c.inputsFrom (c.meaning m acyclic) y.2) :=
            Component.respond_congr (combinational y hy) (h.fixture y.2) m m _
        _ = c.meaning m acyclic y.2 := (c.meaning_eq m acyclic y.2).symm }

theorem settled_run (lawful : c.Lawful) (combinational : c.Combinational) (acyclic : c.Acyclic)
    (m : Moment) (e : Engine) (k : Nat) : ∃ f, Settled c m acyclic k (e.run c k) f := by
  induction k with
  | zero => exact ⟨_, settled_zero m acyclic e⟩
  | succ k ih =>
    obtain ⟨f, h⟩ := ih
    exact settled_succ lawful combinational h

/-! ## §4 Convergence -/

/-- **Convergence**: in a lawful circuit of combinational components whose wires that count form no
cycle, the meaning is well defined, every component has a longest path of drivers to it, and no tick
ends in a fault. From whatever state of the engine, a component whose longest path has `d` wires
shows its meaning after every number of ticks from `d + 1` on; so the outputs of all components no
longer change once there has been one tick more than the longest path of all has wires. -/
theorem run_converges (lawful : c.Lawful) (combinational : c.Combinational) (acyclic : c.Acyclic)
    (e : Engine) (m : Moment) :
    (∀ x, c.meaning m acyclic x = x.respond m (c.inputsFrom (c.meaning m acyclic) x)) ∧
      (∀ x, ∃ d, IsGreatest {n | c.Path n x} d) ∧
      (∀ k, (e.run c k).fault = none) ∧
      (∀ (i : Nat) (y : Value × Component), c.components[i]? = some y →
        ∀ d, IsGreatest {n | c.Path n y.2} d → ∀ k, d + 1 ≤ k →
          ∃ z, (e.run c k).circuit.components[i]? = some z ∧ z.1 = y.1 ∧
            z.2.outputs = c.meaning m acyclic y.2) ∧
      ∃ depth, IsLUB {n | ∃ y ∈ c.components, c.Path n y.2} depth ∧ ∀ k, depth + 1 ≤ k →
        (e.run c k).circuit.components.map (fun z => (z.1, z.2.outputs)) =
          (e.run c (depth + 1)).circuit.components.map fun z => (z.1, z.2.outputs) := by
  have settled := settled_run lawful combinational acyclic m e
  refine ⟨c.meaning_eq m acyclic, acyclic.exists_longest_path, ?_, ?_, ?_⟩
  · intro k
    obtain ⟨f, h⟩ := settled k
    exact h.noFault
  · intro i y found d longest k late
    obtain ⟨f, h⟩ := settled k
    refine ⟨(y.1, f y.2), by rw [h.components, List.getElem?_map, found]; rfl, rfl, ?_⟩
    exact h.meant y (List.mem_of_getElem? found) fun n path =>
      Nat.lt_of_le_of_lt (longest.2 path) late
  · obtain ⟨depth, lub⟩ := acyclic.exists_depth
    have shown (k : Nat) (late : depth + 1 ≤ k) :
        (e.run c k).circuit.components.map (fun z => (z.1, z.2.outputs)) =
          c.components.map fun y => (y.1, c.meaning m acyclic y.2) := by
      obtain ⟨f, h⟩ := settled k
      rw [h.components, List.map_map]
      refine List.map_congr_left fun y hy => ?_
      dsimp only [Function.comp]
      rw [h.meant y hy fun n path => Nat.lt_of_le_of_lt (lub.1 ⟨y, hy, path⟩) late]
    refine ⟨depth, lub, fun k late => ?_⟩
    rw [shown k late, shown (depth + 1) (Nat.le_refl _)]

/-! ### A chain of two components -/

/-- A constant and a component that emits its magnitude. -/
def chain : Circuit :=
  aroundWire [(.text "In1", constantSource), (.text "Abs1", magnitude)]

/-- An engine that comes from another circuit: the constant has published what it does not emit. -/
def stale : Engine :=
  { afterThreeTicks with published := [(.text "In1", [("VALUE_OUT", .int 40)])] }

theorem chain_lawful : chain.Lawful := ⟨by simp [chain, aroundWire, constantSource, magnitude],
  fun w hw => by
    rw [List.mem_singleton.1 hw]
    exact ⟨rfl, rfl, rfl, rfl⟩⟩

theorem chain_combinational : chain.Combinational := by
  unfold Circuit.Combinational
  simp [chain, aroundWire, constantSource, magnitude, ComponentType.isCombinational,
    Kind.isCombinational]

/-- In the chain only the constant drives others, and nothing drives the constant. -/
theorem chain_drives {x y : Component} (h : chain.Drives y x) :
    y = constantSource ∧ x ≠ constantSource := by
  obtain ⟨pin, declared, out, source⟩ := h
  obtain ⟨w, first, source⟩ := Option.bind_eq_some_iff.1 source
  obtain ⟨z, found, source⟩ := Option.bind_eq_some_iff.1 source
  rw [List.mem_singleton.1 (List.mem_of_find?_eq_some first)] at found
  cases found
  cases source
  refine ⟨rfl, ?_⟩
  rintro rfl
  cases declared

theorem chain_acyclic : chain.Acyclic := by
  intro x cycle
  obtain ⟨y, drives, -⟩ := Relation.TransGen.head'_iff.1 cycle
  obtain ⟨z, -, driven⟩ := Relation.TransGen.tail'_iff.1 cycle
  exact (chain_drives driven).2 (chain_drives drives).1

theorem chain_longest_path : IsGreatest {n | chain.Path n magnitude} 1 := by
  have undriven (y : Component) : ¬ chain.Drives y constantSource :=
    fun h => (chain_drives h).2 rfl
  refine ⟨.next (.start undriven) ⟨"SIGNAL_IN", List.mem_singleton.2 rfl, _, rfl⟩, ?_⟩
  intro n path
  cases path with
  | start _ => exact Nat.zero_le 1
  | next path drives =>
    rw [(chain_drives drives).1] at path
    cases path with
    | start _ => exact Nat.le_refl 1
    | next _ drives => exact absurd drives (undriven _)

theorem chain_meaning (m : Moment) :
    chain.meaning m chain_acyclic magnitude = [("SIGNAL_OUT", .int 3)] := by
  have source : chain.meaning m chain_acyclic constantSource = [("VALUE_OUT", .int (-3))] := by
    rw [Circuit.meaning_eq]
    rfl
  have received : chain.received (chain.meaning m chain_acyclic) magnitude "SIGNAL_IN" =
      .int (-3) := by
    change ((chain.meaning m chain_acyclic constantSource).signalAt _).asSignal = _
    rw [source]
    rfl
  rw [Circuit.meaning_eq, Circuit.inputsFrom]
  change magnitude.respond m [("SIGNAL_IN", chain.received _ magnitude "SIGNAL_IN")] = _
  rw [received]
  rfl

/-- After two ticks the chain shows the magnitude of the constant, and nothing of what had been
published before. -/
theorem run_converges_after_two_ticks :
    chain.Lawful ∧ chain.Combinational ∧ chain.Acyclic ∧
      IsGreatest {n | chain.Path n magnitude} 1 ∧
      ∃ z, (stale.run chain 2).circuit.components[1]? = some z ∧
        z.2.outputs = [("SIGNAL_OUT", .int 3)] := by
  obtain ⟨-, -, -, shown, -⟩ := run_converges chain_lawful chain_combinational chain_acyclic stale
    (stale.moment chain)
  obtain ⟨z, found, -, outputs⟩ := shown 1 (.text "Abs1", magnitude) rfl 1 chain_longest_path 2
    (Nat.le_refl 2)
  exact ⟨chain_lawful, chain_combinational, chain_acyclic, chain_longest_path, z, found,
    outputs.trans (chain_meaning _)⟩

end Engine

end TickCircuit

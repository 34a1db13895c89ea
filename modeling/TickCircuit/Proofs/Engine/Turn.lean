import TickCircuit.Engine.Tick
import TickCircuit.Proofs.Component.Fixture
import TickCircuit.Proofs.Value.Table

/-!
# Turns and Sweeps

What the turn of one component does, said once: what it keeps (`Component.fixture`), where its inputs
and outputs come from, and when it ends the tick. A sweep is the turns of a table of components in
their order, up to the first that ends the tick (`sweep_parts`, `sweep_rest`).
-/

namespace TickCircuit

/-! ## §1 Reactions -/

namespace Component

variable {m : Moment} {c : Component}

/-- A reaction keeps a literal. -/
theorem ofKind_value_of_literal (s : Stimulus) (k : Kind) (state : k.shape.State)
    (h : k.literal?.isSome = true) : (Reaction.ofKind s k state).value = s.value := by
  cases k <;> first | rfl | cases h

@[simp] theorem react_fixture (m : Moment) (c : Component) : (c.react m).1.fixture = c.fixture := by
  obtain ⟨id, type, settings, value, inputs, outputs, state⟩ := c
  cases type with
  | foreign t => rfl
  | known k =>
    by_cases h : k.literal?.isSome = true
    · simp [react, fixture, ComponentType.literal?, h, ofKind_value_of_literal _ k state h]
    · simp [react, fixture, ComponentType.literal?, h]

@[simp] theorem react_inputs (m : Moment) (c : Component) : (c.react m).1.inputs = c.inputs := by
  obtain ⟨id, type, settings, value, inputs, outputs, state⟩ := c
  cases type <;> rfl

@[simp] theorem react_type (m : Moment) (c : Component) : (c.react m).1.type = c.type :=
  congrArg Fixture.type (react_fixture m c)

/-- What a component emits; nothing if it fails. -/
def emitted (m : Moment) (c : Component) : Pins :=
  match (c.react m).2.outputs with
  | .ok emitted => emitted.getD []
  | .error _ => []

theorem act_component (m : Moment) (c : Component) :
    (c.act m).component = { (c.react m).1 with outputs := c.published (c.emitted m) } := by
  have same_pins (pins : Pins) : (c.react m).1.published pins = c.published pins := by
    rw [published, published, react_type]
  unfold act emitted
  dsimp only
  cases (c.react m).2.outputs with
  | ok pins => simp only [same_pins]
  | error e => simp only [same_pins]

@[simp] theorem act_fault (m : Moment) (c : Component) : (c.act m).fault = none := by
  unfold act
  dsimp only
  split <;> rfl

@[simp] theorem act_fixture (m : Moment) (c : Component) :
    (c.act m).component.fixture = c.fixture := by
  rw [act_component]
  exact react_fixture m c

/-! ## §2 Turns -/

/-- A turn with inputs: either the history refuses its limit, or the component acts. -/
theorem turn_ok (m : Moment) (inputs : Pins) (c : Component) :
    let limited := { c with inputs }.limitHistory m.settings.historyLimit
    (∃ e, limited.1 = .error e ∧
      c.turn m (.ok inputs) = { component := limited.2, fault := some e }) ∨
    (limited.1 = .ok () ∧ c.turn m (.ok inputs) = limited.2.act m) := by
  intro limited
  unfold turn
  dsimp only
  split
  · next e c' h => exact .inl ⟨e, by simp [limited, h], by simp [limited, h]⟩
  · next c' h => exact .inr ⟨by simp [limited, h], by simp [limited, h]⟩

theorem turn_fixture (m : Moment) (inputs : Except Fault Pins) (c : Component) :
    (c.turn m inputs).component.fixture = c.fixture := by
  cases inputs with
  | error e => rfl
  | ok pins =>
    rcases turn_ok m pins c with ⟨e, -, h⟩ | ⟨-, h⟩
    · rw [h]; rfl
    · rw [h, act_fixture]; rfl

/-- After its turn a component shows the inputs that it received. -/
theorem turn_inputs (m : Moment) (pins : Pins) (c : Component) :
    (c.turn m (.ok pins)).component.inputs = pins := by
  rcases turn_ok m pins c with ⟨e, -, h⟩ | ⟨-, h⟩
  · rw [h]; rfl
  · rw [h, act_component]
    exact react_inputs m _

end Component

/-! ## §3 Sweeps -/

section Sweep

variable (turn : Component → Part) (t : Table Component)

/-- The parts of a sweep are the turns of the first components. -/
theorem sweep_parts :
    (sweep turn t).parts =
      (t.take (sweep turn t).parts.length).map fun e => (e.1, turn e.2) := by
  induction t with
  | nil => rfl
  | cons e rest ih =>
    rw [sweep]
    dsimp only
    split
    · rfl
    · simpa using ih

/-- The components behind them have not had their turn. -/
theorem sweep_rest : (sweep turn t).rest = t.drop (sweep turn t).parts.length := by
  induction t with
  | nil => rfl
  | cons e rest ih =>
    rw [sweep]
    dsimp only
    split
    · rfl
    · simpa using ih

/-- A sweep ends without a fault when every turn does. -/
theorem sweep_fault_eq_none_iff :
    (sweep turn t).fault = none ↔ ∀ e ∈ t, (turn e.2).fault = none := by
  induction t with
  | nil => simp [sweep]
  | cons e rest ih =>
    rw [sweep, List.forall_mem_cons]
    dsimp only
    split
    · next fault h => simp [h]
    · next h => simpa [h] using ih

/-- After a sweep the components that had their turn stand before those that had not. -/
theorem sweep_components :
    (sweep turn t).components =
      (t.take (sweep turn t).parts.length).map (fun e => (e.1, (turn e.2).component)) ++
        t.drop (sweep turn t).parts.length := by
  have done := congrArg (List.map fun e => (e.1, e.2.component)) (sweep_parts turn t)
  rw [List.map_map] at done
  rw [Sweep.components, done, sweep_rest]
  rfl

/-- A view of the components that no turn changes is not changed by a sweep. -/
theorem sweep_view {β : Type} (view : Component → β) (h : ∀ x, view (turn x).component = view x) :
    (sweep turn t).components.map (fun e => (e.1, view e.2)) =
      t.map fun e => (e.1, view e.2) := by
  rw [sweep_components, List.map_append, List.map_map]
  simp only [Function.comp_def, h]
  rw [← List.map_append, List.take_append_drop]

variable {turn t}

/-- In a sweep without a fault every component has its turn. -/
theorem sweep_parts_of_no_fault (h : (sweep turn t).fault = none) :
    (sweep turn t).parts = t.map fun e => (e.1, turn e.2) := by
  induction t with
  | nil => rfl
  | cons e rest ih =>
    rw [sweep] at h ⊢
    dsimp only at h ⊢
    split at h
    · cases h
    · exact congrArg ((e.1, turn e.2) :: ·) (ih h)

theorem sweep_components_of_no_fault (h : (sweep turn t).fault = none) :
    (sweep turn t).components = t.map fun e => (e.1, (turn e.2).component) := by
  have all : (sweep turn t).parts.length = t.length := by
    rw [sweep_parts_of_no_fault h, List.length_map]
  rw [sweep_components, all, List.take_length, List.drop_length, List.append_nil]

theorem sweep_published_of_no_fault (h : (sweep turn t).fault = none) :
    (sweep turn t).published = (sweep turn t).components.map fun x => (x.2.id, x.2.outputs) := by
  rw [Sweep.published, sweep_parts_of_no_fault h, sweep_components_of_no_fault h, List.map_map,
    List.map_map]
  rfl

end Sweep

end TickCircuit

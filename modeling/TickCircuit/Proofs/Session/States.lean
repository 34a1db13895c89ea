import TickCircuit.Proofs.Circuit.Components
import TickCircuit.Proofs.Reaction.Returns
import TickCircuit.Proofs.Session.Calls

/-!
# The States in a Session

The states of the components in a session are reached ones: components are created and set back in
initial states, and edits and ticks take them on as `Reaction.Reached` does. This holds from an empty
circuit on (`inReach_empty`), and from a circuit that was read from a document (`ofDocument_inReach`).
So in a session a component fails only when it is overtaxed (`performAll_returns`).
-/

namespace TickCircuit

/-! ## §1 Components -/

/-- A state is one that components of the type come to. -/
def ComponentType.Reaches : (t : ComponentType) → t.shape.State → Prop
  | .known k, state => Reaction.Reached k state
  | .foreign _, _ => True

theorem ComponentType.reaches_initial {t : ComponentType} {settings : Record}
    {state : t.shape.State} (starts : t.shape.initial settings = .ok state) : t.Reaches state := by
  cases t with
  | known k => exact .initial starts
  | foreign name => trivial

namespace Component

/-- The component is in a state that is reached. -/
def InReach (c : Component) : Prop := c.type.Reaches c.state

variable {c new : Component}

theorem create_inReach {id type value : Value} {settings : Record}
    (h : create id type settings value = .ok c) : c.InReach := by
  unfold create at h
  obtain ⟨key, -, h⟩ := Outcome.bind_eq_ok.1 h
  obtain ⟨state, starts, h⟩ := Outcome.bind_eq_ok.1 h
  cases h
  exact ComponentType.reaches_initial starts

theorem reset_inReach (h : c.reset = .ok new) : new.InReach := by
  unfold reset at h
  obtain ⟨state, starts, h⟩ := Outcome.bind_eq_ok.1 h
  cases h
  exact ComponentType.reaches_initial starts

theorem pressed_inReach {isPressed : Bool} (h : Circuit.pressed isPressed c = some new) :
    new.InReach := by
  obtain ⟨id, type, settings, value, inputs, outputs, state⟩ := c
  cases type with
  | foreign t => cases h
  | known k =>
    cases k <;> cases h
    exact .press isPressed

/-- New settings leave the state alone, unless the component starts again. -/
theorem resettled_inReach (h : c.InReach) {changes : Value} {result : Except Fault Unit}
    (left : c.Resettled changes result new) : new.InReach := by
  have kept : (c.changed changes).InReach := h
  cases left with
  | brokenOff | stuck | kept => exact kept
  | restarted isReset => exact reset_inReach isReset

theorem limitHistory_inReach (h : c.InReach) (limit : Nat) : (c.limitHistory limit).2.InReach := by
  obtain ⟨id, type, settings, value, inputs, outputs, state⟩ := c
  cases type with
  | known k => exact .limit limit h
  | foreign t => trivial

theorem react_inReach (h : c.InReach) (m : Moment) : (c.react m).1.InReach := by
  obtain ⟨id, type, settings, value, inputs, outputs, state⟩ := c
  cases type with
  | known k => exact .react _ h
  | foreign t => trivial

/-- The component is asked for more than it can do at a moment. -/
def Overtaxed (m : Moment) : Component → Prop
  | ⟨id, .known k, settings, value, inputs, _, state⟩ =>
    Reaction.Overtaxed ⟨id, settings, inputs, value, m⟩ k state
  | ⟨_, .foreign _, _, _, _, _, _⟩ => False

theorem exists_outputs_iff (h : c.InReach) (m : Moment) :
    (∃ out, (c.react m).2.outputs = .ok out) ↔ ¬ c.Overtaxed m := by
  obtain ⟨id, type, settings, value, inputs, outputs, state⟩ := c
  cases type with
  | known k => exact Reaction.outputs_ok_iff h _
  | foreign t => exact iff_of_true ⟨none, rfl⟩ not_false

/-- A turn takes a component on to another state that is reached. -/
theorem turn_inReach (h : c.InReach) (m : Moment) (inputs : Except Fault Pins) :
    (c.turn m inputs).component.InReach := by
  cases inputs with
  | error e => exact h
  | ok pins =>
    have limited := limitHistory_inReach (c := { c with inputs := pins }) h m.settings.historyLimit
    rcases turn_ok m pins c with ⟨e, -, refused⟩ | ⟨-, acts⟩
    · rw [refused]
      exact limited
    · rw [acts, act_component]
      exact react_inReach limited m

end Component

/-! ## §2 Circuits -/

namespace Circuit

/-- All components are in states that are reached. -/
def InReach (c : Circuit) : Prop := ∀ e ∈ c.components, e.2.InReach

theorem inReach_empty : InReach empty := fun _ inside => nomatch inside

variable {c : Circuit}

/-- So are the components of a circuit that was read. -/
theorem ofDocument_inReach {d : Value} (h : ofDocument d = .ok c) : c.InReach :=
  every_ofDocument (fun _ _ _ _ _ created => Component.create_inReach created) h

end Circuit

/-- An edit leaves all components in states that are reached. -/
theorem Edit.apply_inReach {c : Circuit} (h : c.InReach) (edit : Edit) :
    (edit.apply c).circuit.InReach := by
  refine Circuit.Every.edit h edit fun x made => ?_
  cases edit with
  | addComponent type settings id =>
    obtain ⟨_, _, created⟩ := made
    exact Component.create_inReach created
  | updateSettings id changes =>
    obtain ⟨old, ended, found, left, -⟩ := made
    exact Component.resettled_inReach (Circuit.Every.found h found) left
  | updateValue id value =>
    obtain ⟨old, found, rfl⟩ := made
    have before : old.InReach := Circuit.Every.found h found
    exact before
  | press id isPressed =>
    obtain ⟨old, -, done⟩ := made
    exact Component.pressed_inReach done
  | removeComponent | connect | disconnect | clear => exact False.elim made

/-! ## §3 Ticks -/

namespace Engine

/-- A tick takes all components on to states that are reached. -/
theorem tick_inReach {c : Circuit} (h : c.InReach) (e : Engine) : (e.tick c).circuit.InReach := by
  cases hw : Delivery.winners c.wires with
  | error fault =>
    rw [tick_circuit_of_error hw]
    exact h
  | ok winners =>
    rw [tick_circuit hw]
    intro x inside
    rw [sweep_components] at inside
    -- behind a turn that ends the tick the components are as they were
    rcases List.mem_append.1 inside with turned | waiting
    · obtain ⟨y, before, rfl⟩ := List.mem_map.1 turned
      exact Component.turn_inReach (h y (List.mem_of_mem_take before)) _ _
    · exact h x (List.mem_of_mem_drop waiting)

theorem reset_inReach {c : Circuit} (h : c.InReach) (e : Engine) : (e.reset c).circuit.InReach := by
  have setBack (t : Table Component) (before : ∀ x ∈ t, x.2.InReach) :
      ∀ x ∈ (resetAll t).1, x.2.InReach := by
    induction t with
    | nil => exact before
    | cons x rest ih =>
      obtain ⟨first, others⟩ := List.forall_mem_cons.1 before
      rw [resetAll]
      split
      · exact before
      · next fresh isReset =>
        exact List.forall_mem_cons.2 ⟨Component.reset_inReach isReset, ih others⟩
  exact setBack c.components h

end Engine

/-! ## §4 Sessions -/

/-- **Step**: whatever is done with a bench, its components are in states that are reached. -/
theorem Bench.undergo_inReach {b : Bench} (h : b.circuit.InReach) (d : Deed) :
    (b.undergo d).circuit.InReach := by
  cases d with
  | edit e => exact e.apply_inReach h
  | tick => exact b.engine.tick_inReach h
  | reset => exact b.engine.reset_inReach h
  | pace interval => exact h

/-- **Run**: so it stays along all deeds. -/
theorem Bench.after_inReach {b : Bench} (h : b.circuit.InReach) (deeds : List Deed) :
    (b.after deeds).circuit.InReach :=
  after_invariant (p := fun b => b.circuit.InReach) (fun _ d h => undergo_inReach h d) h deeds

/-- **Sessions**: along every sequence of calls the components are in states that are reached. -/
theorem Session.performAll_inReach {s : Session} (h : s.circuit.InReach) (calls : List Call) :
    (s.performAll calls).circuit.InReach :=
  performAll_keeps (p := fun b => b.circuit.InReach) Bench.after_inReach h calls

/-- After every sequence of calls the components react without a fault, unless they are overtaxed. -/
theorem Session.performAll_returns {s : Session} (h : s.circuit.InReach) (calls : List Call)
    (m : Moment) :
    ∀ e ∈ (s.performAll calls).circuit.components,
      (∃ out, (e.2.react m).2.outputs = .ok out) ↔ ¬ e.2.Overtaxed m := by
  intro e inside
  exact Component.exists_outputs_iff (performAll_inReach h calls e inside) m

end TickCircuit

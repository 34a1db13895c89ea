import TickCircuit.Proofs.Circuit.Edits
import TickCircuit.Proofs.Outcome

/-!
# What Edits Make of Components

An edit makes at most one new component (`Edit.Makes`): it creates one, or it puts a changed one in the
place of an old one. All other components stay as they are, so a property of all components that the
made one has as well is kept by the edit (`Every.edit`).
-/

namespace TickCircuit

/-! ## §1 Properties of All Components -/

namespace Circuit

/-- All components have the property. -/
def Every (p : Component → Prop) (c : Circuit) : Prop := ∀ e ∈ c.components, p e.2

variable {p : Component → Prop} {c : Circuit} {id : Value}

theorem Every.found (h : c.Every p) {x : Component} (found : c.find? id = .ok (some x)) : p x := by
  obtain ⟨_, member, -⟩ := Table.mem_of_find? (find?_of_ok found).2
  exact h _ member

theorem Every.insert (h : c.Every p) {x : Component} (new : p x) (id : Value) :
    Every p { c with components := c.components.insert id x } := by
  intro e inside
  rcases Table.mem_insert inside with old | ⟨here, -⟩
  · exact h e old
  · rw [here]
    exact new

theorem Every.add (h : c.Every p) {x : Component} {c' : Circuit} (new : p x)
    (added : c.add x = .ok c') : c'.Every p := by
  unfold Circuit.add at added
  obtain ⟨key, -, added⟩ := Outcome.bind_eq_ok.1 added
  cases added
  exact h.insert new key

theorem Every.replace (h : c.Every p) {x : Component} (new : p x) : (c.replace id x).Every p := by
  have modified (t : Table Component) (old : ∀ e ∈ t, p e.2) :
      ∀ e ∈ t.modify id fun _ => x, p e.2 := by
    induction t with
    | nil => exact old
    | cons e rest ih =>
      obtain ⟨first, others⟩ := List.forall_mem_cons.1 old
      rw [Table.modify]
      split
      · exact List.forall_mem_cons.2 ⟨new, others⟩
      · exact List.forall_mem_cons.2 ⟨first, ih others⟩
  exact modified c.components h

end Circuit

/-- What is read from a document was created. -/
theorem Component.exists_create_of_ofDocument {d : Value} {x : Component}
    (read : ofDocument d = .ok x) :
    ∃ id type settings value, create id type settings value = .ok x := by
  unfold ofDocument at read
  obtain ⟨id, -, read⟩ := Outcome.bind_eq_ok.1 read
  obtain ⟨type, -, read⟩ := Outcome.bind_eq_ok.1 read
  dsimp only at read
  split at read <;> obtain ⟨settings, -, read⟩ := Outcome.bind_eq_ok.1 read <;>
    exact ⟨_, _, _, _, read⟩

/-- What all created components have, all components of a circuit have that was read from a
document. -/
theorem Circuit.every_ofDocument {p : Component → Prop}
    (created : ∀ id type settings value x, Component.create id type settings value = .ok x → p x)
    {d : Value} {c : Circuit} (read : ofDocument d = .ok c) : c.Every p := by
  unfold ofDocument at read
  dsimp only at read
  split at read
  · cases read
  obtain ⟨counters, -, read⟩ := Outcome.bind_eq_ok.1 read
  obtain ⟨documents, -, read⟩ := Outcome.bind_eq_ok.1 read
  obtain ⟨filled, filling, read⟩ := Outcome.bind_eq_ok.1 read
  obtain ⟨wireItems, -, read⟩ := Outcome.bind_eq_ok.1 read
  obtain ⟨wires, -, read⟩ := Outcome.bind_eq_ok.1 read
  cases read
  -- the components are added one by one to a circuit without any
  have adds (before : Circuit) (v : Value) (after : Circuit)
      (added : (do before.add (← Component.ofDocument v)) = .ok after) (h : before.Every p) :
      after.Every p := by
    obtain ⟨x, isRead, added⟩ := Outcome.bind_eq_ok.1 added
    obtain ⟨_, _, _, _, made⟩ := Component.exists_create_of_ofDocument isRead
    exact h.add (created _ _ _ _ _ made) added
  have nothing : Every p ⟨[], [], counters, fieldOr d "wire_counter" (.int 0)⟩ :=
    fun _ inside => nomatch inside
  have all : filled.Every p := Outcome.foldlM_invariant adds filling nothing
  exact all

/-! ## §2 Edits -/

/-- What an edit with a result makes of a component, or creates. -/
def Edit.Makes (c : Circuit) : Edit → Except Fault Value → Component → Prop
  | addComponent type _ _, _, x => ∃ id record, Component.create id type record .null = .ok x
  | updateSettings id changes, result, x => ∃ old ended, c.find? id = .ok (some old) ∧
    old.Resettled changes ended x ∧ result = ended.map fun _ => .null
  | updateValue id value, _, x => ∃ old, c.find? id = .ok (some old) ∧ x = { old with value }
  | press id isPressed, _, x =>
    ∃ old, c.find? id = .ok (some old) ∧ Circuit.pressed isPressed old = some x
  | removeComponent _, _, _ => False
  | connect _ _ _ _, _, _ => False
  | disconnect _, _, _ => False
  | clear, _, _ => False

/-- **Edits**: what all components have, and what is made has, all components have after the edit. -/
theorem Circuit.Every.edit {p : Component → Prop} {c : Circuit} (h : c.Every p) (edit : Edit)
    (new : ∀ x, edit.Makes c (edit.apply c).result x → p x) : (edit.apply c).circuit.Every p := by
  have ends := edit.ends c
  generalize edit.apply c = edited at ends new ⊢
  -- where nothing is made, the components are as before or fewer
  cases ends with
  | failed | ignored | disconnected => exact h
  | unmade made =>
    obtain ⟨-, count, rfl⟩ := nextComponentId_eq_ok made
    exact h
  | numbered made created =>
    obtain ⟨-, count, rfl⟩ := nextComponentId_eq_ok made
    exact Every.insert (c := { c with counters := _ }) h
      (new _ ⟨_, Component.exists_create_of_ofSettings created⟩) _
  | named _ _ created => exact h.insert (new _ ⟨_, Component.exists_create_of_ofSettings created⟩) _
  | removed => exact fun e he => h e ((Table.erase_sublist _ _).subset he)
  | unsettled found left => exact h.replace (new _ ⟨_, _, found, left, rfl⟩)
  | resettled found left => exact h.replace (new _ ⟨_, _, found, left, rfl⟩)
  | valued found => exact h.replace (new _ ⟨_, found, rfl⟩)
  | pressed found done => exact h.replace (new _ ⟨_, found, done⟩)
  | connected _ _ _ _ made =>
    obtain ⟨count, rfl⟩ := nextWireId_eq_ok made
    exact h
  | cleared => exact fun _ he => nomatch he

end TickCircuit

import TickCircuit.Proofs.Circuit.Endings
import TickCircuit.Proofs.Circuit.Integrity

/-!
# Edits Change Integral Circuits into Integral Ones

Every edit, with whatever arguments and whether it succeeds or not, does one of the things that can
happen to a circuit (`Edit.change`). The cases are the ways in which an edit can end: an edit that is
refused or fails early leaves the circuit alone, and one that fails midway has only counted on or
changed something inside a component.
-/

namespace TickCircuit

/-! ## §1 What Components Keep -/

namespace Component

variable {c new : Component}

/-- Pressing a button changes its state only. -/
theorem pressed_fixture {isPressed : Bool} (h : Circuit.pressed isPressed c = some new) :
    new.fixture = c.fixture := by
  obtain ⟨id, type, settings, value, inputs, outputs, state⟩ := c
  cases type with
  | foreign t => cases h
  | known k =>
    cases k <;> cases h
    rfl

theorem pressed_id_type {isPressed : Bool} (h : Circuit.pressed isPressed c = some new) :
    new.id = c.id ∧ new.type = c.type :=
  ⟨congrArg Fixture.id (pressed_fixture h), congrArg Fixture.type (pressed_fixture h)⟩

/-- New settings change neither the id nor the type, however they end. -/
theorem Resettled.id_type {changes : Value} {result : Except Fault Unit}
    (h : c.Resettled changes result new) : new.id = c.id ∧ new.type = c.type := by
  cases h with
  | brokenOff => exact ⟨rfl, rfl⟩
  | stuck => exact ⟨rfl, rfl⟩
  | restarted isReset =>
    have kept := reset_fixture isReset
    exact ⟨congrArg Fixture.id kept, congrArg Fixture.type kept⟩
  | kept => exact ⟨rfl, rfl⟩

theorem ofSettings_id_type {id settings : Value} {kind : Kind}
    (created : ofSettings id (.text kind.name) settings = .ok c) :
    c.id = id ∧ c.type = .known kind := by
  obtain ⟨record, created⟩ := exists_create_of_ofSettings created
  obtain ⟨isId, type, -⟩ := create_fresh created
  exact ⟨isId, type⟩

end Component

namespace Circuit

variable {c c' : Circuit} {id : Value}

/-- A component that keeps its id and its type is replaced inside the plan. -/
theorem replace_samePlan {old new : Component} (found : c.find? id = .ok (some old))
    (kept : new.id = old.id ∧ new.type = old.type) : c.SamePlan (c.replace id new) where
  roster := Table.map_modify_const (f := fun x : Component => (x.id, x.type)) (find?_of_ok found).2
    (Prod.ext kept.1 kept.2)
  wires := rfl
  counters := rfl
  wireCounter := rfl

theorem connects_of_found {sourceId sourcePin targetId targetPin : Value} {source target : Component}
    (found : c.find? sourceId = .ok (some source))
    (out : source.type.hasOutputPin sourcePin = true)
    (found' : c.find? targetId = .ok (some target))
    (into : target.type.hasInputPin targetPin = true) :
    Connects c.roster ⟨id, sourceId, sourcePin, targetId, targetPin⟩ := by
  constructor
  · refine ⟨(source.id, source.type), ?_, out⟩
    rw [find?_roster, (find?_of_ok found).2]
    rfl
  · refine ⟨(target.id, target.type), ?_, into⟩
    rw [find?_roster, (find?_of_ok found').2]
    rfl

/-- A new component is put behind all others. -/
theorem insert_change {counters settings : Value} {kind : Kind} {x : Component}
    (key : id.isKey = true) (free : c.components.contains id = false) (counts : c.Counts counters)
    (created : Component.ofSettings id (.text kind.name) settings = .ok x) :
    Change c none { c with components := c.components.insert id x, counters := counters } := by
  obtain ⟨isId, isKnown⟩ := Component.ofSettings_id_type created
  have behind : roster { c with components := c.components.insert id x, counters := counters } =
      c.roster ++ [(id, id, .known kind)] := by
    rw [roster, Table.insert_of_not_contains x free, List.map_append, List.map_singleton, isId, isKnown]
    rfl
  exact .added key (by rw [contains_roster, free]) behind rfl counts rfl

end Circuit

/-! ## §2 Edits -/

/-- The edits that put one component in the place of another, if they do anything. -/
def Edit.replaces : Edit → Bool
  | updateSettings _ _ => true
  | updateValue _ _ => true
  | press _ _ => true
  | _ => false

/-- They keep the plan of the circuit, however they end. -/
theorem Edit.Ends.samePlan {c : Circuit} {edit : Edit} {edited : Edited Value} (ends : edit.Ends c edited)
    (replaces : edit.replaces = true) : c.SamePlan edited.circuit := by
  cases ends with
  | failed | ignored => exact .refl c
  | unsettled found left => exact Circuit.replace_samePlan found left.id_type
  | resettled found left => exact Circuit.replace_samePlan found left.id_type
  | valued found => exact Circuit.replace_samePlan found ⟨rfl, rfl⟩
  | pressed found done => exact Circuit.replace_samePlan found (Component.pressed_id_type done)
  | _ => cases replaces

/-- **Edits**: every edit does one of the things that can happen to a circuit. -/
theorem Edit.change {c : Circuit} (h : c.Integral) (edit : Edit) :
    ∃ made, c.Change made (edit.apply c).circuit := by
  have ends := edit.ends c
  generalize edit.apply c = edited at ends ⊢
  have replaced (replaces : edit.replaces = true) : ∃ made, c.Change made edited.circuit :=
    ⟨none, (ends.samePlan replaces).change⟩
  cases ends with
  | failed | ignored => exact ⟨none, (Circuit.SamePlan.refl c).change⟩
  | @unmade kind settings id c' fault made fails =>
    -- the counter has counted on, although no component was created
    obtain ⟨before, after, counter, above, isMade, -⟩ :=
      Circuit.nextComponentId_spec h.counted kind.name
    rw [isMade] at made
    cases made
    exact ⟨none, .inside rfl rfl (.inr ⟨_, before, after, counter, above, rfl⟩) rfl⟩
  | @numbered kind settings id c' x made created =>
    obtain ⟨before, after, counter, above, isMade, free⟩ :=
      Circuit.nextComponentId_spec h.counted kind.name
    rw [isMade] at made
    cases made
    exact ⟨none, Circuit.insert_change rfl free (.inr ⟨_, before, after, counter, above, rfl⟩) created⟩
  | named key free created => exact ⟨none, Circuit.insert_change key free (.inl rfl) created⟩
  | removed found => exact ⟨none, .removed _⟩
  | unsettled | resettled | valued | pressed => exact replaced rfl
  | connected found out found' into made =>
    obtain ⟨before, after, counter, above, isMade, free⟩ :=
      Circuit.nextWireId_spec h.counted h.named
    rw [isMade] at made
    cases made
    exact ⟨_, .joined (Circuit.connects_of_found found out found' into) counter above rfl free⟩
  | disconnected events => exact ⟨none, .cut _⟩
  | cleared => exact ⟨none, .cleared⟩

theorem Circuit.disconnect_circuit (c : Circuit) (id : Value) :
    (c.disconnect id).circuit = { c with wires := c.wires.eraseP (·.id.same id) } := by
  unfold disconnect removeWire
  cases c.wires.any (·.id.same id) <;> rfl

/-- The edits that take components away. -/
def Edit.frees : Edit → Bool
  | removeComponent _ => true
  | clear => true
  | _ => false

/-- All other edits leave every id in use. -/
theorem Edit.keepsIds {c : Circuit} {edit : Edit} (keeps : edit.frees = false) {id : Value}
    (inUse : c.components.contains id = true) :
    (edit.apply c).circuit.components.contains id = true := by
  have ends := edit.ends c
  generalize edit.apply c = edited at ends ⊢
  have replaced (replaces : edit.replaces = true) : edited.circuit.components.contains id = true := by
    rw [← Circuit.contains_roster, (ends.samePlan replaces).roster, Circuit.contains_roster]
    exact inUse
  -- what is made or replaced keeps the ids that are there, and making an id only counts on
  cases ends with
  | failed | ignored | disconnected => exact inUse
  | unmade made =>
    obtain ⟨-, count, rfl⟩ := Circuit.nextComponentId_eq_ok made
    exact inUse
  | numbered made =>
    obtain ⟨-, count, rfl⟩ := Circuit.nextComponentId_eq_ok made
    exact Table.contains_insert inUse
  | named => exact Table.contains_insert inUse
  | removed => cases keeps
  | unsettled | resettled | valued | pressed => exact replaced rfl
  | connected _ _ _ _ made =>
    obtain ⟨count, rfl⟩ := Circuit.nextWireId_eq_ok made
    exact inUse
  | cleared => cases keeps

end TickCircuit

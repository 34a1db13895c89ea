import TickCircuit.Proofs.Circuit.Components
import TickCircuit.Proofs.Circuit.RoundTrip
import TickCircuit.Proofs.Engine.Deeds

/-!
# Saving an Edited Circuit

A circuit that has been edited and run, without an edit that ended in a fault, can always be saved and
loaded again. Its components can be read back one by one (`Savable`), which every successful edit keeps
(`Edit.savable`) and every tick, for it leaves the settings alone. What is loaded has the same wires
and counters and the components in the same order.

Its document is the same, too, with one exception: a constant whose value has been taken away is read
back with the literal of its type (`saved_reloads`).
-/

namespace TickCircuit

/-! ## §1 Settings after a Change -/

/-- What stands in settings after changes were put on top of them. -/
theorem Record.setting_merge (base : Record) {changes : Record} (distinct : changes.Distinct)
    (name : String) :
    Record.setting (base.merge changes) name = (Table.get? changes name).getD (base.setting name) := by
  unfold setting Table.get?
  rw [Table.find?_merge base distinct]
  cases Table.find? changes (.text name) <;> rfl

/-- Settings that are found unchanged are not mentioned, or mentioned with an equal value. -/
theorem Circuit.same_of_changesAny {settings : Record} {changes : Value} {names : List String}
    (h : changesAny settings changes names = .ok false) :
    ∀ name ∈ names, changes.mentions name = .ok false ∨
      ∃ v, changes.field name = .ok v ∧ v.same (settings.setting name) = true := by
  induction names with
  | nil => simp
  | cons name rest ih =>
    obtain ⟨mentioned, mentions, h⟩ := Outcome.bind_eq_ok.1 h
    cases mentioned with
    | false => exact List.forall_mem_cons.2 ⟨.inl mentions, ih h⟩
    | true =>
      obtain ⟨v, field, h⟩ := Outcome.bind_eq_ok.1 h
      split at h
      · next same => exact List.forall_mem_cons.2 ⟨.inr ⟨v, field, same⟩, ih h⟩
      · cases h

/-- A selector does not come to select an infinity by settings that are found unchanged. -/
theorem Circuit.selects_of_unchanged {settings changes : Record} (distinct : changes.Distinct)
    (unchanged : changesAny settings (.object changes) seedSettings = .ok false)
    (selects : Record.SelectsInfinity (settings.merge changes)) : settings.SelectsInfinity := by
  unfold Record.SelectsInfinity at selects ⊢
  rw [Record.setting_merge settings distinct] at selects
  rcases same_of_changesAny unchanged "selectedConnection" (by decide) with missing | ⟨v, field, same⟩
  · have none : Table.get? changes "selectedConnection" = none := by
      simpa [Value.mentions, Table.contains, Table.get?] using missing
    rw [none] at selects
    exact selects
  · have there : Table.get? changes "selectedConnection" = some v := by
      simp only [Value.field] at field
      split at field
      · next found =>
        cases field
        exact found
      · cases field
    rw [there] at selects
    exact Value.isInfinite_of_same same selects

/-! ## §2 Components That Can Be Saved -/

namespace Component

/-- Whatever is written of the component can be read again. -/
structure Savable (c : Component) : Prop where
  covers : c.type.Covers c.settings
  starts : ∃ state, c.type.shape.initial c.settings = .ok state

variable {c x : Component}

/-- Only the settings count. -/
theorem Savable.of_fixture (h : c.Savable) (same : x.fixture = c.fixture) : x.Savable := by
  obtain ⟨id, type, settings, value, inputs, outputs, state⟩ := x
  obtain ⟨id', type', settings', value', inputs', outputs', state'⟩ := c
  obtain ⟨rfl, rfl, rfl, -⟩ := Fixture.mk.inj same
  exact ⟨h.covers, h.starts⟩

theorem create_savable {id type value : Value} {settings : Record}
    (created : create id type settings value = .ok x) : x.Savable := by
  unfold create at created
  obtain ⟨key, -, created⟩ := Outcome.bind_eq_ok.1 created
  obtain ⟨state, starts, created⟩ := Outcome.bind_eq_ok.1 created
  cases created
  exact ⟨(ComponentType.ofValue key).covers_merge settings, state, starts⟩

/-- A component that could be set back can be started from its settings. -/
theorem reset_savable (covers : c.type.Covers c.settings) (isReset : c.reset = .ok x) :
    x.Savable := by
  unfold reset at isReset
  obtain ⟨state, starts, isReset⟩ := Outcome.bind_eq_ok.1 isReset
  cases isReset
  exact ⟨covers, state, starts⟩

/-- New settings that come as an object leave a component that can be saved, when they do not end in a
fault. -/
theorem resettled_savable (h : c.Savable) {changes : Record} (distinct : changes.Distinct)
    (left : c.Resettled (.object changes) (.ok ()) x) : x.Savable := by
  have covers : c.type.Covers (c.settings.merge changes) := h.covers.merge changes
  cases left with
  | restarted isReset => exact reset_savable (c := c.changed (.object changes)) covers isReset
  | kept put stays =>
    refine ⟨covers, (Shape.initial_ok_iff _ _).2 fun isSelector selects => ?_⟩
    -- the old settings select no infinity, and the new ones do not differ in that
    have before := (Shape.initial_ok_iff _ _).1 h.starts isSelector
    rcases stays with unchanged | stateless
    · exact before (Circuit.selects_of_unchanged distinct unchanged selects)
    · have other : Shape.selector = .stateless := isSelector.symm.trans stateless
      cases other

end Component

/-! ## §3 Edits -/

/-- New settings are given as an object, whose keys are all different. -/
def Edit.Proper : Edit → Prop
  | updateSettings _ changes => ∃ es : Record, changes = .object es ∧ es.Distinct
  | _ => True

/-- **Step**: an edit that does not end in a fault leaves components that can be saved. -/
theorem Edit.savable {c : Circuit} (h : c.Every Component.Savable) {edit : Edit}
    (proper : edit.Proper) (done : ∃ r, (edit.apply c).result = .ok r) :
    (edit.apply c).circuit.Every Component.Savable := by
  refine h.edit edit fun x made => ?_
  cases edit with
  | addComponent type settings id =>
    obtain ⟨_, _, created⟩ := made
    exact Component.create_savable created
  | updateSettings id changes =>
    obtain ⟨old, ended, found, left, result⟩ := made
    obtain ⟨es, rfl, distinct⟩ := proper
    obtain ⟨r, succeeded⟩ := done
    rw [result] at succeeded
    cases ended with
    | error e => cases succeeded
    | ok _ => exact Component.resettled_savable (h.found found) distinct left
  | updateValue id value =>
    obtain ⟨old, found, rfl⟩ := made
    have before : old.Savable := h.found found
    exact ⟨before.covers, before.starts⟩
  | press id isPressed =>
    obtain ⟨old, found, done⟩ := made
    exact (h.found found).of_fixture (Component.pressed_fixture done)
  | removeComponent | connect | disconnect | clear => exact False.elim made

/-! ## §4 Runs -/

/-- What only a fixture says about a component is said of components with the same fixtures. -/
theorem Circuit.Every.of_fixtures {p : Component → Prop} {c c' : Circuit} (h : c.Every p)
    (congr : ∀ x y : Component, y.fixture = x.fixture → p x → p y)
    (same : c'.components.map (fun x => (x.1, x.2.fixture)) =
      c.components.map fun x => (x.1, x.2.fixture)) : c'.Every p := by
  intro y hy
  have member : (y.1, y.2.fixture) ∈ c.components.map fun x => (x.1, x.2.fixture) :=
    same ▸ List.mem_map_of_mem hy
  obtain ⟨x, hx, equal⟩ := List.mem_map.1 member
  exact congr x.2 y.2 (Prod.mk.inj equal).2.symm (h x hx)

/-- What only a fixture says about a component, and edits keep, all deeds keep: ticks and resets leave the
fixtures alone. -/
theorem Circuit.Every.undergo {p : Component → Prop} {b : Bench} (h : b.circuit.Every p)
    (congr : ∀ x y : Component, y.fixture = x.fixture → p x → p y) {d : Deed}
    (edited : ∀ e, d = .edit e → (e.apply b.circuit).circuit.Every p) : (b.undergo d).circuit.Every p := by
  cases d with
  | edit e => exact edited e rfl
  | tick => exact h.of_fixtures congr (Engine.tick_fixtures b.engine b.circuit)
  | reset => exact h.of_fixtures congr (Engine.resetAll_fixtures b.circuit.components)
  | pace interval => exact h

namespace Bench

/-- None of the edits ends in a fault. -/
def Succeeds : Bench → List Deed → Prop
  | _, [] => True
  | b, d :: rest =>
    (∀ e, d = .edit e → ∃ r, (e.apply b.circuit).result = .ok r) ∧ Succeeds (b.undergo d) rest

variable {b : Bench}

/-- **Step**: what is done without a fault leaves components that can be saved. -/
theorem undergo_savable (h : b.circuit.Every Component.Savable) {d : Deed}
    (proper : ∀ e, d = .edit e → e.Proper)
    (done : ∀ e, d = .edit e → ∃ r, (e.apply b.circuit).result = .ok r) :
    (b.undergo d).circuit.Every Component.Savable :=
  h.undergo (fun _ _ same h => h.of_fixture same) fun e isEdit =>
    Edit.savable h (proper e isEdit) (done e isEdit)

/-- **Run**: so it is after all that is done. -/
theorem after_savable {deeds : List Deed} (h : b.circuit.Every Component.Savable)
    (proper : ∀ e, .edit e ∈ deeds → e.Proper) (succeeds : b.Succeeds deeds) :
    (b.after deeds).circuit.Every Component.Savable := by
  induction deeds generalizing b with
  | nil => exact h
  | cons d rest ih =>
    obtain ⟨first, others⟩ := succeeds
    have firstProper (e : Edit) (isEdit : d = .edit e) : e.Proper :=
      proper e (isEdit ▸ List.mem_cons_self)
    exact ih (undergo_savable h firstProper first)
      (fun e member => proper e (List.mem_cons_of_mem _ member)) others

end Bench

/-! ## §5 Loading What Was Saved -/

namespace Circuit

variable {c : Circuit}

/-- An integral circuit of components that can be saved is loaded with its wires, its counters and its
components in their order. Only a constant without a value is not as it was. -/
theorem Integral.reloads (h : c.Integral) (savable : c.Every Component.Savable) :
    ∃ c', ofDocument c.toDocument = .ok c' ∧ c'.components.keys = c.components.keys ∧
      c'.wires = c.wires ∧ c'.counters = c.counters ∧ c'.wireCounter = c.wireCounter ∧
      (c'.toDocument = c.toDocument ↔ ∀ e ∈ c.components,
        e.2.type = .known .constant → e.2.value ≠ .null ∧ e.2.value ≠ .absent) := by
  have known (e : Value × Component) (he : e ∈ c.components) : ∃ kind, e.2.type = .known kind :=
    h.known _ (List.mem_map_of_mem he)
  have key (e : Value × Component) (he : e ∈ c.components) : e.2.id = e.1 :=
    (h.keyed _ (List.mem_map_of_mem he)).1
  -- each component is read back on its own, under its key
  obtain ⟨read, reads⟩ : ∃ read : Table Component, List.Forall₂ (fun e e' =>
      ReadsAs e.2.toDocument e' ∧ e.1 = e'.1 ∧ (e'.2.toDocument = e.2.toDocument ↔
        (e.2.type = .known .constant → e.2.value ≠ .null ∧ e.2.value ≠ .absent)))
      c.components read := by
    refine Outcome.exists_forall₂ fun e he => ?_
    obtain ⟨state, starts⟩ := (savable e he).starts
    have back := Component.ofDocument_toDocument (known e he) (savable e he).covers
    rw [starts] at back
    obtain ⟨id, -, document⟩ :=
      Component.toDocument_of_readBack (known e he) (savable e he).covers back
    exact ⟨(_, _), ⟨back, rfl⟩, (key e he).symm.trans id.symm, document⟩
  have isTable : c.counters.isObject = true ∨ c.counters.isList = true := by
    obtain ⟨es, counters, -⟩ := h.counted.types
    rw [counters]
    exact .inl rfl
  have sameKeys : c.components.keys = read.keys := by
    rw [← List.forall₂_eq_eq_eq, Table.keys, Table.keys, List.forall₂_map_left_iff,
      List.forall₂_map_right_iff]
    exact reads.imp fun e e' back => back.2.1
  have sameDocuments := Outcome.map_eq_iff_of_forall₂ (f := fun e => e.2.toDocument)
    (g := fun e => e.2.toDocument) (reads.imp fun e e' back => back.2.2)
  refine ⟨{ c with components := read }, (ofDocument_toDocument_iff h.sound).2 ⟨isTable, rfl, rfl,
    rfl, reads.imp fun e e' back => back.1⟩, sameKeys.symm, rfl, rfl, rfl, ?_⟩
  rw [← sameDocuments]
  constructor
  · intro same
    have lists := congrArg (Value.field · "components") same
    exact Value.list.inj (Except.ok.inj lists)
  · intro same
    unfold toDocument
    rw [same]

end Circuit

namespace Bench

/-- **Saving**: a circuit that was edited and run without an edit that ended in a fault is loaded from
its document with the same wires and counters and with its components in their order, and the document
of what is loaded is the same unless a constant in it has no value. -/
theorem saved_reloads (engine : Engine) (deeds : List Deed)
    (proper : ∀ e, .edit e ∈ deeds → e.Proper) (succeeds : Succeeds ⟨engine, .empty⟩ deeds) :
    let c := (after ⟨engine, .empty⟩ deeds).circuit
    ∃ c', Circuit.ofDocument c.toDocument = .ok c' ∧ c'.components.keys = c.components.keys ∧
      c'.wires = c.wires ∧ c'.counters = c.counters ∧ c'.wireCounter = c.wireCounter ∧
      (c'.toDocument = c.toDocument ↔ ∀ e ∈ c.components,
        e.2.type = .known .constant → e.2.value ≠ .null ∧ e.2.value ≠ .absent) := by
  intro c
  have integral : c.Integral :=
    after_integral (b := ⟨engine, .empty⟩) Circuit.integral_empty deeds
  have nothing : Circuit.empty.Every Component.Savable := fun _ inside => nomatch inside
  exact integral.reloads (after_savable (b := ⟨engine, .empty⟩) nothing proper succeeds)

/-- Edits and ticks on a constant that drives a selector. -/
def selectorDeeds : List Deed := [
  .edit (.addComponent (.text "Constant") .null .null),
  .edit (.addComponent (.text "InputSelector") .null .null),
  .tick,
  .edit (.updateSettings (.text "InputSelector1")
    (.object [(.text "selectedConnection", .int 3), (.text "label", .list [])])),
  .edit (.connect (.text "Constant1") (.text "VALUE_OUT") (.text "InputSelector1")
    (.text "SIGNAL_IN_3")),
  .edit (.updateValue (.text "Constant1") (.list [])),
  .tick,
  .tick]

theorem saved_reloads_selectorDeeds :
    (∀ e, .edit e ∈ selectorDeeds → e.Proper) ∧
      Succeeds ⟨Engine.standardStart, .empty⟩ selectorDeeds ∧
      let c := (after ⟨Engine.standardStart, .empty⟩ selectorDeeds).circuit
      ∃ c', Circuit.ofDocument c.toDocument = .ok c' ∧ c'.components.keys = c.components.keys ∧
        c'.wires = c.wires ∧ c'.counters = c.counters ∧ c'.wireCounter = c.wireCounter ∧
        (c'.toDocument = c.toDocument ↔ ∀ e ∈ c.components,
          e.2.type = .known .constant → e.2.value ≠ .null ∧ e.2.value ≠ .absent) := by
  have proper : ∀ e, .edit e ∈ selectorDeeds → e.Proper := by
    intro e member
    simp only [selectorDeeds, List.mem_cons, Deed.edit.injEq, reduceCtorEq, List.not_mem_nil,
      or_false, false_or] at member
    rcases member with rfl | rfl | rfl | rfl | rfl
    case inr.inr.inl =>
      exact ⟨_, rfl, @Record.distinct_ofFields [("selectedConnection", .int 3), ("label", .list [])] (by decide)⟩
    all_goals trivial
  have succeeds : Succeeds ⟨Engine.standardStart, .empty⟩ selectorDeeds := by
    refine ⟨?_, ?_, ?_, ?_, ?_, ?_, ?_, ?_, trivial⟩ <;> rintro e ⟨⟩ <;> exact ⟨_, rfl⟩
  exact ⟨proper, succeeds, saved_reloads Engine.standardStart selectorDeeds proper succeeds⟩

/-- A constant whose value is taken away is loaded with the literal of its type. And settings that come
as pairs do not restart a selector, so it can be left with settings from which none starts. -/
theorem emptied_constant_reloads_with_literal :
    let b : Bench := ⟨Engine.standardStart, .empty⟩
    let emptied : List Deed := [.edit (.addComponent (.text "Constant") .null .null),
      .edit (.updateValue (.text "Constant1") .null)]
    let paired : List Deed := [.edit (.addComponent (.text "InputSelector") .null .null),
      .edit (.updateSettings (.text "InputSelector1")
        (.list [.list [.text "selectedConnection", .real (1.0 / 0.0)]]))]
    (b.Succeeds emptied ∧ ∃ c', Circuit.ofDocument (b.after emptied).circuit.toDocument = .ok c' ∧
        c'.toDocument ≠ (b.after emptied).circuit.toDocument) ∧
      b.Succeeds paired ∧
        Circuit.ofDocument (b.after paired).circuit.toDocument = .error .infiniteToInt := by
  intro b emptied paired
  refine ⟨⟨?_, _, rfl, ?_⟩, ?_, rfl⟩
  · refine ⟨?_, ?_, trivial⟩ <;> rintro e ⟨⟩ <;> exact ⟨_, rfl⟩
  · intro same
    cases same
  · refine ⟨?_, ?_, trivial⟩ <;> rintro e ⟨⟩ <;> exact ⟨_, rfl⟩

end Bench

end TickCircuit

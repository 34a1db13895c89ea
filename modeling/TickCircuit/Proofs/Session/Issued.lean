import Mathlib
import TickCircuit.Proofs.Circuit.Searches
import TickCircuit.Proofs.Session.Integrity

/-!
# Ids Are Issued Once

Whatever is called on a session, an id can be searched for at any time: the search ends, and the id at
which it ends is not in use. As long as the circuit is not cleared, no id is issued twice, not even when
the component or the wire that has had it is gone, or when no component could be created under it. Users
may choose ids that look like issued ones; the searches step over them.

The second law is an induction over the calls (`found_nodup`). It takes that a search finds an id ahead of
the counters and leaves them behind it, and that the counters only go onward.
-/

namespace TickCircuit

/-! ## §1 Searches in Edits -/

/-- What the search comes to that an edit begins for the id of a component, if it begins one. -/
def Edit.componentSearch (c : Circuit) : Edit → Option (Except Fault (Value × Circuit))
  | addComponent type _ .null => (ComponentType.ofValue type).kind?.map fun _ => c.nextComponentId type
  | _ => none

/-- The pins are there, and they are not one and the same. -/
def Circuit.canConnect (c : Circuit) (sourceId sourcePin targetId targetPin : Value) : Bool :=
  match c.find? sourceId, c.find? targetId with
  | .ok (some source), .ok (some target) =>
    source.type.hasOutputPin sourcePin && target.type.hasInputPin targetPin &&
      !(sourceId.same targetId && sourcePin.same targetPin)
  | _, _ => false

/-- What the search comes to that an edit begins for the id of a wire, if it begins one. -/
def Edit.wireSearch (c : Circuit) : Edit → Option (Except Fault (Value × Circuit))
  | connect sourceId sourcePin targetId targetPin =>
    if c.canConnect sourceId sourcePin targetId targetPin then some c.nextWireId else none
  | _ => none

namespace Edit

variable {c : Circuit} {edit : Edit} {result : Except Fault (Value × Circuit)}

/-- The id of a component is searched for when one of a known kind is added without an id. -/
theorem componentSearch_eq_some (h : componentSearch c edit = some result) :
    ∃ (kind : Kind) (settings : Value), edit = .addComponent (.text kind.name) settings .null ∧
      result = c.nextComponentId (.text kind.name) := by
  unfold componentSearch at h
  split at h
  · next type settings =>
    obtain ⟨kind, known, made⟩ := Option.map_eq_some_iff.1 h
    obtain rfl : type = .text kind.name := ComponentType.kind?_ofValue.1 known
    exact ⟨kind, settings, rfl, made.symm⟩
  · cases h

theorem wireSearch_eq_some (h : wireSearch c edit = some result) :
    ∃ sourceId sourcePin targetId targetPin,
      edit = .connect sourceId sourcePin targetId targetPin ∧
        c.canConnect sourceId sourcePin targetId targetPin = true ∧ result = c.nextWireId := by
  unfold wireSearch at h
  split at h
  · next sourceId sourcePin targetId targetPin =>
    split at h
    · next can => exact ⟨sourceId, sourcePin, targetId, targetPin, rfl, can, (Option.some.inj h).symm⟩
    · cases h
  · cases h

end Edit

namespace Circuit

variable {c c' : Circuit} {id : Value}

/-- A component without an id is placed under the id that is found. -/
theorem addComponent_of_search {kind : Kind} {settings : Value}
    (made : c.nextComponentId (.text kind.name) = .ok (id, c')) :
    c.addComponent (.text kind.name) settings .null = c'.place id (.text kind.name) settings := by
  rw [addComponent, ComponentType.kind?_ofValue.2 rfl]
  simp only [made]

/-- Pins that can be connected are, by a wire with the id that is found. -/
theorem connect_of_search {sourceId sourcePin targetId targetPin : Value}
    (can : c.canConnect sourceId sourcePin targetId targetPin = true)
    (made : c.nextWireId = .ok (id, c')) :
    c.connect sourceId sourcePin targetId targetPin =
      .done (c'.addWire ⟨id, sourceId, sourcePin, targetId, targetPin⟩) id [.wireAdded id] := by
  unfold canConnect at can
  split at can
  · next source target there there' =>
    simp only [Bool.and_eq_true, Bool.not_eq_true'] at can
    obtain ⟨⟨out, into⟩, apart⟩ := can
    simp [connect, there, there', out, into, apart, made]
  · cases can

/-- Whether or not a component can be placed, the counters stay. -/
theorem place_counters (c : Circuit) (key : id.isKey = true) (type settings : Value) :
    (c.place id type settings).circuit.counters = c.counters := by
  rw [c.place_eq key]
  split <;> rfl

/-! ## §2 What Searches Find -/

/-- Ids can be made: for each kind and for wires the search for an id ends, and no component, or wire,
has the id at which it ends. -/
structure MakesIds (c : Circuit) : Prop where
  components : ∀ kind : Kind, ∃ counter id c', c.counterOf (.text kind.name) = .ok counter ∧
    c.nextComponentId (.text kind.name) = .ok (id, c') ∧
      SearchEnds kind.name (fun id => !c.components.contains id) counter id ∧
        c.components.contains id = false
  wires : ∃ id c', c.nextWireId = .ok (id, c') ∧
    SearchEnds "W" (fun id => !c.wires.any (·.id.same id)) c.wireCounter id ∧
      ∀ w ∈ c.wires, w.id.same id = false

theorem Integral.makesIds (h : c.Integral) : c.MakesIds where
  components := by
    intro kind
    obtain ⟨before, after, -, -, made, free⟩ := nextComponentId_spec h.counted kind.name
    obtain ⟨counter, reads, ends⟩ := nextComponentId_ends made
    exact ⟨counter, _, _, reads, made, ends, free⟩
  wires := by
    obtain ⟨before, after, -, -, made, free⟩ := nextWireId_spec h.counted h.named
    refine ⟨_, _, made, nextWireId_ends made, fun w hw => Bool.eq_false_iff.2 fun same => ?_⟩
    exact free w hw ((h.named w hw).same_iff.1 same)

/-- The id that is found for a component lies ahead of the counters before the edit and no longer
after it. -/
theorem Integral.found_component (h : c.Integral) {edit : Edit}
    (found : edit.componentSearch c = some (.ok (id, c'))) :
    c.AheadOfComponents id ∧ ¬ (edit.apply c).circuit.AheadOfComponents id := by
  obtain ⟨kind, settings, rfl, result⟩ := Edit.componentSearch_eq_some found
  obtain ⟨before, after, counter, above, made, -⟩ := nextComponentId_spec h.counted kind.name
  rw [made] at result
  cases result
  refine ⟨⟨kind, before, after, rfl, counter, above⟩, ?_⟩
  rintro ⟨other, count, n, same, reads, further⟩
  obtain ⟨rfl, rfl⟩ := numbered_name_injective same
  -- the counter of the kind has come to the id
  have counters : ((Edit.addComponent (.text kind.name) settings .null).apply c).circuit.counters =
      setCounter c.counters (.text kind.name) (.int after) := by
    show (c.addComponent (.text kind.name) settings .null).circuit.counters = _
    rw [addComponent_of_search made]
    exact place_counters _ rfl _ _
  have moved := counterOf_setCounter h.counted counters kind.name
  rw [if_pos (Value.sameScalar_text.2 rfl), reads] at moved
  cases moved
  exact Nat.lt_irrefl _ further

theorem Integral.found_wire (h : c.Integral) {edit : Edit}
    (found : edit.wireSearch c = some (.ok (id, c'))) :
    c.AheadOfWires id ∧ ¬ (edit.apply c).circuit.AheadOfWires id := by
  obtain ⟨sourceId, sourcePin, targetId, targetPin, rfl, can, result⟩ := Edit.wireSearch_eq_some found
  obtain ⟨before, after, counter, above, made, -⟩ := nextWireId_spec h.counted h.named
  rw [made] at result
  cases result
  refine ⟨⟨before, after, rfl, counter, above⟩, ?_⟩
  rintro ⟨count, n, same, reads, further⟩
  have connected := connect_of_search can made
  rw [Edit.apply, connected] at reads
  cases reads
  have counts : (after : Int) = n := numbered_injective same
  omega

end Circuit

namespace Session

/-! ## §3 Calls -/

/-- The ids that the searches in some calls find, in the order of the calls. -/
def found (search : Circuit → Edit → Option (Except Fault (Value × Circuit))) :
    Session → List Call → List Value
  | _, [] => []
  | s, call :: rest =>
    let later := found search (s.perform call) rest
    match call with
    | .edit edit =>
      match search s.circuit edit with
      | some (.ok (id, _)) => id :: later
      | _ => later
    | _ => later

variable {search : Circuit → Edit → Option (Except Fault (Value × Circuit))} {s : Session}

/-- Either nothing is found in the first call, or one id. -/
theorem found_cons (search : Circuit → Edit → Option (Except Fault (Value × Circuit))) (s : Session)
    (call : Call) (rest : List Call) :
    s.found search (call :: rest) = (s.perform call).found search rest ∨
      ∃ edit id c', call = .edit edit ∧ search s.circuit edit = some (.ok (id, c')) ∧
        s.found search (call :: rest) = id :: (s.perform call).found search rest := by
  cases call with
  | edit edit =>
    cases here : search s.circuit edit with
    | none => exact .inl (by simp [found, here])
    | some result =>
      cases result with
      | error fault => exact .inl (by simp [found, here])
      | ok made => exact .inr ⟨edit, made.1, made.2, rfl, here, by simp [found, here]⟩
  | _ => exact .inl rfl

/-- No call but clearing the circuit sets a counter back. -/
theorem perform_onward (integral : s.circuit.Integral) {call : Call} (keeps : call ≠ .edit .clear) :
    s.circuit.Onward (s.perform call).circuit := by
  by_cases isEdit : ∃ edit, call = .edit edit
  · obtain ⟨edit, rfl⟩ := isEdit
    rw [(perform_edit s edit).1]
    exact edit.onward integral fun clears => keeps (by rw [clears])
  · exact (perform_samePlan s (not_exists.1 isEdit)).onward

/-- Searches that find what lies ahead and leave it behind never find the same twice, as long as nothing
comes to lie ahead again. -/
theorem found_nodup (Ahead : Circuit → Value → Prop)
    (finds : ∀ {c : Circuit} {edit : Edit} {id : Value} {c' : Circuit}, c.Integral →
      search c edit = some (.ok (id, c')) → Ahead c id ∧ ¬ Ahead (edit.apply c).circuit id)
    (onward : ∀ {c c' : Circuit} {id : Value}, c.Integral → c.Onward c' → Ahead c' id → Ahead c id)
    (integral : s.circuit.Integral) {calls : List Call} (keeps : .edit .clear ∉ calls) :
    (∀ id ∈ s.found search calls, Ahead s.circuit id) ∧ (s.found search calls).Nodup := by
  induction calls generalizing s with
  | nil => exact ⟨by simp [found], List.nodup_nil⟩
  | cons call rest ih =>
    rw [List.mem_cons, not_or] at keeps
    obtain ⟨made, change⟩ := perform_change integral call
    have integral' : (s.perform call).circuit.Integral := integral.change change
    obtain ⟨ahead, nodup⟩ := ih integral' keeps.2
    have moves : s.circuit.Onward (s.perform call).circuit :=
      perform_onward integral fun clears => keeps.1 clears.symm
    -- what is found later lies ahead of the counters after the call, so it lay ahead before it
    have later (id : Value) (member : id ∈ (s.perform call).found search rest) : Ahead s.circuit id :=
      onward integral moves (ahead id member)
    rcases found_cons search s call rest with
      nothing | ⟨edit, id, c', rfl, here, one⟩
    · rw [nothing]
      exact ⟨later, nodup⟩
    · rw [one]
      obtain ⟨first, behind⟩ := finds integral here
      refine ⟨List.forall_mem_cons.2 ⟨first, later⟩, List.nodup_cons.2 ⟨fun again => ?_, nodup⟩⟩
      rw [← (perform_edit s edit).1] at behind
      exact behind (ahead id again)

/-! ## §4 Issued Ids -/

/-- **Ids**: along every sequence of calls on a session that starts with the empty circuit, in which the
circuit is not cleared, an id can be made at any time, for each kind and for wires, and it is not in
use. No two of the ids that are made for components are the same, of whatever kinds, and no two of those
that are made for wires, whether what they were made for is still there or not. -/
theorem ids_issued_once (engine : Engine) (observers : List Observer) {calls : List Call}
    (keeps : .edit .clear ∉ calls) :
    let s := start .empty engine observers
    (∀ earlier later, calls = earlier ++ later → (s.performAll earlier).circuit.MakesIds) ∧
      (s.found Edit.componentSearch calls).Nodup ∧ (s.found Edit.wireSearch calls).Nodup := by
  intro s
  have integral : s.circuit.Integral := Circuit.integral_empty
  refine ⟨fun earlier _ _ => (performAll_integral integral earlier).makesIds, ?_, ?_⟩
  · exact (found_nodup Circuit.AheadOfComponents (fun integral here => integral.found_component here)
      (fun integral moves ahead => moves.aheadOfComponents integral.counted ahead) integral keeps).2
  · exact (found_nodup Circuit.AheadOfWires (fun integral here => integral.found_wire here)
      (fun _ moves ahead => moves.aheadOfWires ahead) integral keeps).2

/-- An id is chosen that looks like the next one, and the component with the first one is removed. -/
def aroundChosen : List Call := [
  .edit (.addComponent (.text "Constant") .null .null),
  .edit (.addComponent (.text "Constant") .null (.text "Constant2")),
  .edit (.removeComponent (.text "Constant1")),
  .edit (.addComponent (.text "Constant") .null .null)]

/-- The chosen id is stepped over, and the removed one is not made again. -/
theorem found_aroundChosen (engine : Engine) :
    (start .empty engine []).found Edit.componentSearch aroundChosen =
      [.text "Constant1", .text "Constant3"] := by
  cbv

theorem ids_issued_once_around_chosen :
    let s := start .empty Engine.standardStart []
    .edit .clear ∉ aroundChosen ∧
      s.found Edit.componentSearch aroundChosen = [.text "Constant1", .text "Constant3"] ∧
        (s.found Edit.componentSearch aroundChosen).Nodup := by
  intro s
  have keeps : .edit .clear ∉ aroundChosen := by simp [aroundChosen]
  exact ⟨keeps, found_aroundChosen Engine.standardStart,
    (ids_issued_once Engine.standardStart [] keeps).2.1⟩

end Session

end TickCircuit

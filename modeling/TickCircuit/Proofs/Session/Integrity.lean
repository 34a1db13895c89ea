import TickCircuit.Proofs.Circuit.Documents
import TickCircuit.Proofs.Session.Calls

/-!
# The Integrity of Sessions

A session that starts without components stays in good order, whatever is called on it, whichever of
the calls fail, and whatever its observers do. What integrity comes to is said here in terms of the
components and wires themselves.
-/

namespace TickCircuit

namespace Circuit.Integral

variable {c : Circuit}

theorem id_eq_key (h : c.Integral) {e : Value × Component} (he : e ∈ c.components) :
    e.2.id = e.1 :=
  (h.keyed _ (List.mem_map_of_mem he)).1

theorem isKey_id (h : c.Integral) {e : Value × Component} (he : e ∈ c.components) :
    e.2.id.isKey = true := by
  rw [h.id_eq_key he]
  exact (h.keyed _ (List.mem_map_of_mem he)).2

/-- The ends of a wire are pins of components that are there. -/
theorem ends (h : c.Integral) {w : Wire} (hw : w ∈ c.wires) :
    (∃ x, c.components.find? w.source = some x ∧ x.type.hasOutputPin w.sourcePin = true) ∧
      ∃ x, c.components.find? w.target = some x ∧ x.type.hasInputPin w.targetPin = true := by
  obtain ⟨⟨r, found, out⟩, ⟨r', found', into⟩⟩ := h.connected w hw
  rw [find?_roster] at found found'
  obtain ⟨x, there, rfl⟩ := Option.map_eq_some_iff.1 found
  obtain ⟨x', there', rfl⟩ := Option.map_eq_some_iff.1 found'
  exact ⟨⟨x, there, out⟩, ⟨x', there', into⟩⟩

theorem wires_keyed (h : c.Integral) : ∀ w ∈ c.wires, w.Keyed :=
  fun w hw => (h.connected w hw).keyed

/-- No two wires have equal ids. -/
theorem ids_differ (h : c.Integral) : c.wires.Pairwise fun v w => v.id.same w.id = false := by
  refine (List.pairwise_map.1 h.apart).imp_of_mem fun {v w} hv _ differ => ?_
  exact Bool.eq_false_iff.2 fun same => differ ((h.named v hv).same_iff.1 same)

end Circuit.Integral

namespace Session

/-- **Integrity**: after any sequence of calls on a session that starts with the empty circuit, the
components are stored under their ids, every wire runs from an output pin of a component to an input
pin of one, the ids of the wires are different, and the document of the circuit is accepted. -/
theorem performAll_integrity (engine : Engine) (observers : List Observer) (calls : List Call) :
    let c := ((start .empty engine observers).performAll calls).circuit
    (∀ e ∈ c.components, e.2.id = e.1) ∧
      (∀ w ∈ c.wires,
        (∃ x, c.components.find? w.source = some x ∧ x.type.hasOutputPin w.sourcePin = true) ∧
          ∃ x, c.components.find? w.target = some x ∧ x.type.hasInputPin w.targetPin = true) ∧
      (c.wires.Pairwise fun v w => v.id.same w.id = false) ∧
      Validation.document c.toDocument = .ok () := by
  intro c
  have integral : c.Integral := performAll_integral (s := start .empty engine observers)
    Circuit.integral_empty calls
  exact ⟨fun e he => integral.id_eq_key he, fun w hw => integral.ends hw, integral.ids_differ,
    Validation.document_accepted integral⟩

-- one of the two connections is refused, and the id of a component looks like the id of a wire
example (engine : Engine) :
    ((start .empty engine []).performAll [
      .edit (.addComponent (.text "Constant") .null .null),
      .edit (.addComponent (.text "Abs") .null (.text "W1")),
      .edit (.connect (.text "Constant1") (.text "VALUE_OUT") (.text "W1") (.text "SIGNAL_OUT")),
      .edit (.connect (.text "Constant1") (.text "VALUE_OUT") (.text "W1") (.text "SIGNAL_IN"))]).circuit.wires.length = 1 := by
  cbv

end Session

end TickCircuit

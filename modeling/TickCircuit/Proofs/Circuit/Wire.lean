import TickCircuit.Circuit.Basic
import TickCircuit.Proofs.Value.Table

/-!
# Wires between Keys

The ids and pins of a circuit that is edited are keys, so wires are compared by the equality of keys,
which is transitive.
-/

namespace TickCircuit

/-- A pin of a component is a text. -/
theorem isKey_of_pin {pins : List String} {pin : Value}
    (h : (pins.any fun p => pin.isText p) = true) : pin.isKey = true := by
  obtain ⟨p, -, text⟩ := List.any_eq_true.1 h
  cases pin <;> first | rfl | simp [Value.isText] at text

namespace Wire

/-- All four ends of a wire can be keys. -/
structure Keyed (w : Wire) : Prop where
  source : w.source.isKey = true
  sourcePin : w.sourcePin.isKey = true
  target : w.target.isKey = true
  targetPin : w.targetPin.isKey = true

theorem Keyed.touches_eq {w : Wire} (h : w.Keyed) (id : Value) :
    w.touches id = (w.source.sameScalar id || w.target.sameScalar id) := by
  rw [touches, Value.same_eq_sameScalar h.source, Value.same_eq_sameScalar h.target]

theorem Keyed.feeds_eq {w : Wire} (h : w.Keyed) (id pin : Value) :
    w.feeds id pin = (w.target.sameScalar id && w.targetPin.sameScalar pin) := by
  rw [feeds, Value.same_eq_sameScalar h.target, Value.same_eq_sameScalar h.targetPin]

/-- A wire feeds every pin that is fed by a wire into one of its own pins. -/
theorem Keyed.feeds_trans {v w : Wire} (hv : v.Keyed) (hw : w.Keyed) {id pin : Value}
    (h : v.feeds w.target w.targetPin = true) (h' : w.feeds id pin = true) :
    v.feeds id pin = true := by
  rw [hv.feeds_eq, Bool.and_eq_true] at h ⊢
  rw [hw.feeds_eq, Bool.and_eq_true] at h'
  exact ⟨Value.sameScalar_trans h.1 h'.1, Value.sameScalar_trans h.2 h'.2⟩

/-- A wire behind one that feeds its pin is the first wire into no pin. -/
theorem find?_append_cons_of_fed {before behind : List Wire} {w : Wire}
    (keyed : ∀ v ∈ before, v.Keyed) (hw : w.Keyed)
    (fed : ∃ v ∈ before, v.feeds w.target w.targetPin = true) (id pin : Value) :
    (before ++ w :: behind).find? (·.feeds id pin) =
      (before ++ behind).find? (·.feeds id pin) := by
  rw [List.find?_append, List.find?_append, List.find?_cons]
  cases into : w.feeds id pin with
  | false => rfl
  | true =>
    obtain ⟨v, hv, earlier⟩ := fed
    have first : (before.find? (·.feeds id pin)).isSome = true :=
      List.find?_isSome.2 ⟨v, hv, (keyed v hv).feeds_trans hw earlier into⟩
    obtain ⟨u, hu⟩ := Option.isSome_iff_exists.1 first
    rw [hu]
    rfl

end Wire

end TickCircuit

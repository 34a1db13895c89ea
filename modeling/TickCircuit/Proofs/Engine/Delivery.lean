import TickCircuit.Engine.Delivery
import TickCircuit.Proofs.Circuit.Wire
import TickCircuit.Proofs.Outcome

/-!
# What Is Delivered

The wires that count are found by building up a list in which each new wire is kept unless an earlier
one feeds its pin. Looking for the first wire into a pin gives the same result in that list as in the
list of all wires (`find?_winners`). So for wires whose ends can be keys, delivery never fails, and
what is delivered is read off the wires directly (`inputs_eq_delivered`).
-/

namespace TickCircuit

/-! ## §1 The Wires that Count -/

namespace Delivery

/-- A wire put behind those found so far, unless one of them feeds its pin. -/
def keepFirst (found : List Wire) (w : Wire) : List Wire :=
  if found.any (·.feeds w.target w.targetPin) then found else found ++ [w]

theorem winners_eq_foldl {wires : List Wire} (keyed : ∀ w ∈ wires, w.Keyed) :
    winners wires = .ok (wires.foldl keepFirst []) := by
  refine Outcome.foldlM_ok [] fun w hw found => ?_
  rw [Value.asKey_of_isKey (keyed w hw).target, Value.asKey_of_isKey (keyed w hw).targetPin]
  rfl

/-- Leaving out wires into pins that are already fed does not change which wire comes first. -/
theorem find?_keepFirst {wires found : List Wire} (keyed : ∀ w ∈ wires, w.Keyed)
    (keyed' : ∀ w ∈ found, w.Keyed) (id pin : Value) :
    (wires.foldl keepFirst found).find? (·.feeds id pin) =
      (found ++ wires).find? (·.feeds id pin) := by
  -- the invariant: so far the list that is built up finds what the list of all wires finds
  induction wires generalizing found with
  | nil => rw [List.foldl_nil, List.append_nil]
  | cons w rest ih =>
    obtain ⟨hw, hrest⟩ := List.forall_mem_cons.1 keyed
    rw [List.foldl_cons, keepFirst]
    split
    · next fed =>
      rw [ih hrest keyed', Wire.find?_append_cons_of_fed keyed' hw (List.any_eq_true.1 fed)]
    · rw [ih hrest, List.append_assoc]
      · rfl
      · intro v hv
        rcases List.mem_append.1 hv with hv | hv
        · exact keyed' v hv
        · rw [List.mem_singleton.1 hv]
          exact hw

/-- The first wire into a pin is the same among the wires that count and among all wires. -/
theorem find?_winners {wires : List Wire} (keyed : ∀ w ∈ wires, w.Keyed) :
    ∃ found, winners wires = .ok found ∧
      ∀ id pin, found.find? (·.feeds id pin) = wires.find? (·.feeds id pin) := by
  refine ⟨_, winners_eq_foldl keyed, fun id pin => ?_⟩
  rw [find?_keepFirst keyed (fun w hw => absurd hw (List.not_mem_nil)), List.nil_append]

end Delivery

/-! ## §2 The Signal on a Pin -/

/-- The value published on a pin, `absent` if there is none. -/
def Published.value (p : Published) (id pin : Value) : Value :=
  match pin with
  | .text name => ((Table.find? p id).bind fun pins => List.lookup name pins).getD .absent
  | _ => .absent

theorem Published.get?_of_isKey {p : Published} {id pin : Value} (hid : id.isKey = true)
    (hpin : pin.isKey = true) :
    ∃ found, p.get? id pin = .ok found ∧ found.getD .absent = p.value id pin := by
  unfold Published.get? Published.value
  rw [Value.asKey_of_isKey hid, Value.asKey_of_isKey hpin]
  cases pin <;> exact ⟨_, rfl, rfl⟩

/-- A present value has been published under the id, on the pin. -/
theorem Published.value_of_isPresent {p : Published} {id pin : Value}
    (h : (p.value id pin).isPresent = true) :
    ∃ name pins, pin = .text name ∧ p.find? id = some pins ∧
      pins.lookup name = some (p.value id pin) := by
  cases pin with
  | text name =>
    unfold Published.value at h ⊢
    dsimp only at h ⊢
    cases found : p.find? id with
    | none =>
      rw [found] at h
      cases h
    | some pins =>
      rw [found, Option.bind_some] at h
      refine ⟨name, pins, rfl, rfl, ?_⟩
      rw [Option.bind_some]
      cases shown : pins.lookup name with
      | none =>
        rw [shown] at h
        cases h
      | some v => rfl
  | _ => cases h

namespace Circuit

/-- The signal that the first wire into an input pin carries, while its source is there. -/
def delivered (c : Circuit) (published : Published) (id : Value) (pin : String) : Value :=
  match c.wires.find? (·.feeds id (.text pin)) with
  | none => .absent
  | some w =>
    if c.components.contains w.source then (published.value w.source w.sourcePin).asSignal
    else .absent

end Circuit

/-- What is delivered depends on which ids are in use and on the first wire into each pin. -/
theorem Circuit.delivered_congr {c c' : Circuit}
    (ids : ∀ id, c'.components.contains id = c.components.contains id)
    (first : ∀ id pin, c'.wires.find? (·.feeds id pin) = c.wires.find? (·.feeds id pin))
    (published : Published) (id : Value) (pin : String) :
    c'.delivered published id pin = c.delivered published id pin := by
  unfold delivered
  rw [first]
  simp only [ids]

namespace Delivery

theorem signal_eq_delivered {c : Circuit} (keyed : ∀ w ∈ c.wires, w.Keyed) (published : Published)
    {found : List Wire}
    (first : ∀ id pin, found.find? (·.feeds id pin) = c.wires.find? (·.feeds id pin))
    {id : Value} (hid : id.isKey = true) (pin : String) :
    signal c.components published found id (.text pin) = .ok (c.delivered published id pin) := by
  have winner : winner? found id (.text pin) =
      .ok (c.wires.find? (·.feeds id (.text pin))) := by
    rw [winner?, Value.asKey_of_isKey hid, Value.asKey_text, ← first]
    rfl
  unfold signal Circuit.delivered
  rw [winner]
  cases hw : c.wires.find? (·.feeds id (.text pin)) with
  | none => rfl
  | some w =>
    have ends := keyed w (List.mem_of_find?_eq_some hw)
    obtain ⟨value, got, read⟩ := Published.get?_of_isKey (p := published) ends.source ends.sourcePin
    simp only [bind, Except.bind, Value.asKey_of_isKey ends.source, got, ← read]
    split <;> rfl

/-- Delivery to a component never fails, and gives each of its pins what the first wire into it
carries. -/
theorem inputs_eq_delivered {c : Circuit} (keyed : ∀ w ∈ c.wires, w.Keyed) (published : Published)
    {found : List Wire}
    (first : ∀ id pin, found.find? (·.feeds id pin) = c.wires.find? (·.feeds id pin))
    {x : Component} (hid : x.id.isKey = true) :
    inputs c.components published found x =
      .ok (x.type.inputPins.map fun pin => (pin, c.delivered published x.id pin)) := by
  refine Outcome.mapM_ok fun pin _ => ?_
  rw [signal_eq_delivered keyed published first hid]
  rfl

/-- What the next tick hands to a component. -/
def due (c : Circuit) (published : Published) (x : Component) : Except Fault Pins := do
  inputs c.components published (← winners c.wires) x

theorem due_eq_delivered {c : Circuit} (keyed : ∀ w ∈ c.wires, w.Keyed) (published : Published)
    {x : Component} (hid : x.id.isKey = true) :
    due c published x =
      .ok (x.type.inputPins.map fun pin => (pin, c.delivered published x.id pin)) := by
  obtain ⟨found, counted, first⟩ := find?_winners keyed
  rw [due, counted]
  exact inputs_eq_delivered keyed published first hid

theorem due_congr {c c' : Circuit} (keyed : ∀ w ∈ c.wires, w.Keyed)
    (keyed' : ∀ w ∈ c'.wires, w.Keyed)
    (ids : ∀ id, c'.components.contains id = c.components.contains id)
    (first : ∀ id pin, c'.wires.find? (·.feeds id pin) = c.wires.find? (·.feeds id pin))
    (published : Published) {x : Component} (hid : x.id.isKey = true) :
    due c' published x = due c published x := by
  rw [due_eq_delivered keyed' published hid, due_eq_delivered keyed published hid]
  simp only [Circuit.delivered_congr ids first]

end Delivery

end TickCircuit

import TickCircuit.Circuit.Basic

/-!
# Delivery

The signals that reach the input pins at the start of a tick. Of the wires into a pin only the first
one counts: if its source has published nothing, or is gone, the pin has no signal, whatever later
wires carry.
-/

namespace TickCircuit

/-- What the components published in a tick, by their ids. -/
abbrev Published := Table Pins

namespace Published

/-- The value published on a pin, if there is one. -/
def get? (p : Published) (id pin : Value) : Except Fault (Option Value) := do
  let id ← id.asKey
  let pin ← pin.asKey
  match pin with
  | .text name => return (Table.find? p id).bind fun pins => List.lookup name pins
  | _ => return none

end Published

namespace Delivery

/-- The wires that count: for each input pin the first one that feeds it. -/
def winners (wires : List Wire) : Except Fault (List Wire) :=
  wires.foldlM (fun found w => do
    let _ ← w.target.asKey
    let _ ← w.targetPin.asKey
    return if found.any (·.feeds w.target w.targetPin) then found else found ++ [w]) []

/-- The wire that counts for an input pin. -/
def winner? (winners : List Wire) (id pin : Value) : Except Fault (Option Wire) := do
  let _ ← id.asKey
  let _ ← pin.asKey
  return winners.find? (·.feeds id pin)

/-- The signal that reaches an input pin. -/
def signal (components : Table Component) (published : Published) (winners : List Wire)
    (id pin : Value) : Except Fault Value := do
  match ← winner? winners id pin with
  | none => return .absent
  | some w =>
    if components.contains (← w.source.asKey) then
      return ((← published.get? w.source w.sourcePin).getD .absent).asSignal
    else return .absent

/-- The signals on all input pins of a component. -/
def inputs (components : Table Component) (published : Published) (winners : List Wire)
    (c : Component) : Except Fault Pins :=
  c.type.inputPins.mapM fun pin => do
    return (pin, ← signal components published winners c.id (.text pin))

end Delivery

end TickCircuit

import TickCircuit.Component.State
import TickCircuit.Signal.Comparison

/-!
# Relays and Lights

A relay is toggled by a signal that is new, a light by every active signal. In both, a signal on
another pin then sets the state outright.
-/

namespace TickCircuit

/-- An active signal that differs from the one before. -/
def Switch.isToggle (current last : Value) : Bool :=
  current.isActive && !(last.isPresent && current.looseEquals last (some (.real 0.0)))

/-- The relay after a tick with the given signals on its two control pins. Every text but a zero
turns it on. -/
def Switch.turn (s : Switch) (toggle set : Value) : Switch :=
  let toggled := if isToggle toggle s.lastToggle then !s.isOn else s.isOn
  ⟨if set.isPresent then Blank.trim set.signalText != "0" else toggled, toggle⟩

/-- The light after a tick with the given signals on its three pins. A blank colour is no colour. -/
def Lamp.turn (l : Lamp) (toggle set color : Value) : Lamp :=
  let toggled := if toggle.isActive then !l.isOn else l.isOn
  let isOn := if set.isPresent then set.isActive else toggled
  let color := match color with
    | .text s => if Blank.trim s == "" then l.color else .text s
    | _ => l.color
  ⟨isOn, color⟩

end TickCircuit

import TickCircuit.Component.Basic
import TickCircuit.Engine.Broadcast
import TickCircuit.Engine.Settings
import TickCircuit.Circuit.Wire
import TickCircuit.Signal.Comparison

/-!
# Reactions

In every tick each component reacts to a stimulus: its own settings, value and inputs, and what the
moment is like for all components. A reaction is a new state and value, what is emitted, and perhaps
a broadcast. A reaction that fails keeps the state and the value that it had reached by then.
-/

namespace TickCircuit

/-- What is common to all components in a tick. -/
structure Moment where
  /-- The number of the tick, from one. -/
  tick : Nat
  /-- The length of the tick in milliseconds. -/
  interval : Float
  /-- The simulated time at the end of the tick. -/
  now : Float
  wires : List Wire
  /-- What was broadcast in the tick before. -/
  heard : Channels
  settings : EngineSettings

/-- What a component reacts to, its state apart. -/
structure Stimulus where
  id : Value
  settings : Record
  inputs : Pins
  value : Value
  moment : Moment

namespace Stimulus

/-- The signal on an input pin. -/
def input (s : Stimulus) (pin : String) : Value := s.inputs.read pin

def setting (s : Stimulus) (name : String) : Value := s.settings.setting name

/-- The value of a setting, or what stands in for it where it is missing. -/
def settingOr (s : Stimulus) (name : String) (other : Value) : Value :=
  (Table.get? s.settings name).getD other

/-- The signal on a pin if there is one, otherwise a setting. -/
def override (s : Stimulus) (pin name : String) : Value :=
  if (s.input pin).isPresent then s.input pin else s.setting name

end Stimulus

/-- How a component with states of type `σ` reacts. -/
structure Reaction (σ : Type) where
  state : σ
  value : Value
  /-- The signals that are emitted; none when nothing is emitted at all. -/
  outputs : Except Fault (Option Pins)
  /-- A channel and the signal sent on it. -/
  sent : Option (Int × Value) := none

namespace Reaction

variable {σ : Type}

/-- Emits one signal, or nothing, on the single output pin. -/
def signal (state : σ) (value : Value) (out : Option Value) : Reaction σ :=
  ⟨state, value, .ok (out.map fun v => [("SIGNAL_OUT", v)]), none⟩

/-- Emits signals on several pins. -/
def pins (state : σ) (value : Value) (outputs : Pins) : Reaction σ :=
  ⟨state, value, .ok (some outputs), none⟩

/-- Emits nothing. -/
def silent (state : σ) (value : Value) : Reaction σ := ⟨state, value, .ok none, none⟩

/-- Ends in a fault. -/
def failed (state : σ) (value : Value) (fault : Fault) : Reaction σ :=
  ⟨state, value, .error fault, none⟩

end Reaction

end TickCircuit

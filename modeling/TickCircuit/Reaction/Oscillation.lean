import TickCircuit.Fault
import TickCircuit.Signal.Reading

/-!
# Oscillation

An oscillator advances a phase by its frequency in every tick and samples a wave at the fraction of
the phase. The phase is rounded, so that steps that add up to a whole cycle end exactly on it.
-/

namespace TickCircuit

inductive Wave where
  | pulse
  | sawtooth
  | sine
  | square
  | triangle
  deriving Repr, DecidableEq

namespace Wave

/-- The wave with a number. -/
def ofNumber? : Int → Option Wave
  | 0 => some pulse
  | 1 => some sawtooth
  | 2 => some sine
  | 3 => some square
  | 4 => some triangle
  | _ => none

/-- The wave at a point of its cycle, from zero up to one. A pulse is one when a cycle was completed
in this tick. -/
def sample (w : Wave) (phase : Number) (cycled : Bool) : Number :=
  match w with
  | pulse => .int (if cycled then 1 else 0)
  | sawtooth => phase
  | sine => .real (2.0 * 3.141592653589793 * phase.toFloat).sin
  | square => .int (if phase.lt (.real 0.5) then 1 else 0)
  | triangle =>
    if phase.lt (.real 0.5) then ((Number.int 4).mul phase).sub (.int 1)
    else ((Number.int (-4)).mul phase).add (.int 3)

end Wave

namespace Oscillation

def minFrequency : Float := 0.1

def maxFrequency : Float := 10.0

/-- The decimal places of a phase. -/
def phasePlaces : Nat := 12

/-- The frequency that an input and a setting ask for, held within the bounds. -/
def frequency (override setting : Value) : Float :=
  let asked := if override.isPresent then override.reading?.orElse fun _ => setting.reading?
    else setting.reading?
  let finite : Number := match asked with
    | some n => if n.isFinite then .real n.toFloat else .real 1.0
    | none => .real 1.0
  (finite.clamp (some (.real minFrequency)) (some (.real maxFrequency))).toFloat

/-- The wave that an input asks for, or else a setting. -/
def wave (override setting : Value) : Wave :=
  let asked (v : Value) : Option Wave := v.wholeReading?.bind Wave.ofNumber?
  ((asked override).orElse fun _ => asked setting).getD .pulse

/-- The phase one tick later. -/
def advance (phase frequency interval : Float) : Float :=
  Number.roundFloat (phase + frequency * interval / 1000.0) phasePlaces

/-- The number of completed cycles. An endless phase has none. -/
def cycles (phase : Float) : Except Fault Int :=
  match Binary.floor? phase with
  | some n => .ok n
  | none => .error (if phase.isNaN then .nanToInt else .infiniteToInt)

/-- What is emitted when the phase goes from `before` to `after`. -/
def emit (w : Wave) (before after : Float) : Except Fault Value := do
  let cycled := (← cycles after) != (← cycles before)
  return .ofNumber (w.sample (.real (Binary.modulo after 1.0)) cycled)

end Oscillation

end TickCircuit

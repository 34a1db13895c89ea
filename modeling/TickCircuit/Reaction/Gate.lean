import TickCircuit.Component.History
import TickCircuit.Reaction.Arithmetic
import TickCircuit.Signal.Comparison

/-!
# Gates

A gate tests its inputs and emits one of two texts. With a time window the outcomes of the test are
averaged, and the test counts as passed while more than half of them were.
-/

namespace TickCircuit.Gate

/-! ## §1 Tests -/

/-- Both signals are there and equal within a tolerance. -/
def equals (tolerance a b : Value) : Bool :=
  a.isPresent && b.isPresent && a.looseEquals b (some tolerance.numberOrZero.abs)

def both (a b : Value) : Bool := a.isActive && b.isActive

def either (a b : Value) : Bool := a.isActive || b.isActive

def exactlyOne (a b : Value) : Bool := a.isActive != b.isActive

/-- Both signals are numbers, and the first one is greater. -/
def greater (a b : Value) : Bool :=
  match a.reading?, b.reading? with
  | some x, some y => y.lt x
  | _, _ => false

/-- The signal is there and is the target, a number or a text. -/
def isTarget (target v : Value) : Bool := v.isPresent && v.strictEquals target

/-! ## §2 Outcomes -/

/-- The share of passed tests in a window above which a gate is open. -/
def threshold : Float := 0.5

/-- The outcome of a test after the time window. -/
def smoothed (history : History) (now : Float) (window : Value) (passed : Bool) :
    Except Fault Bool × History :=
  match Arithmetic.window? window with
  | some seconds =>
    let (mean, history) := history.windowedMean (.ofFlag passed) (.real now) seconds
    (mean.map fun m => threshold < m, history)
  | none => (.ok passed, history)

/-- The text that a gate emits: the chosen output or the other one, cut to its length. -/
def choose (chosen other maxLength : Value) (passed : Bool) : Value :=
  .text ((if passed then chosen else other).cut maxLength)

end TickCircuit.Gate

import TickCircuit.Component.State
import TickCircuit.Signal.Reading
import TickCircuit.Value.Equality

/-!
# Delays and Memories
-/

namespace TickCircuit

/-! ## §1 Delays -/

namespace DelayLine

/-- The settings of a delay. -/
structure Rule where
  /-- A new signal drives out those that wait. -/
  resetOnNew : Bool
  /-- A new signal that differs from the last one drives out those that wait. -/
  resetOnDifferent : Bool

/-- The delay in milliseconds that an input or else a setting asks for, in seconds. A negative delay
is none. -/
def milliseconds (override setting : Value) : Float :=
  let seconds := (override.reading?.orElse fun _ => setting.reading?).getD (.int 0)
  ((if seconds.lt (.int 0) then Number.int 0 else seconds).mul (.real 1000.0)).toFloat

/-- A signal that was not there in the tick before. -/
def isNew (d : DelayLine) (signal : Value) : Bool :=
  signal.isPresent && !(d.lastInput.isPresent && signal.same d.lastInput)

/-- The line with a new signal that is released at some time. -/
def queue (d : DelayLine) (rule : Rule) (signal : Value) (release : Float) : DelayLine :=
  let drop := rule.resetOnNew || (rule.resetOnDifferent && !signal.same d.lastQueued)
  { d with held := (if drop then [] else d.held) ++ [⟨signal, release⟩], lastQueued := signal }

/-- The line after a signal has arrived. -/
def receive (d : DelayLine) (rule : Rule) (signal : Value) (release : Float) : DelayLine :=
  let d := if d.isNew signal then d.queue rule signal release else d
  { d with lastInput := signal }

/-- Releases the first value whose time has come. -/
def release (d : DelayLine) (now : Float) : Option Value × DelayLine :=
  ((d.held.find? fun h => h.release ≤ now).map (·.value),
    { d with held := d.held.eraseP fun h => h.release ≤ now })

end DelayLine

/-! ## §2 Memories -/

namespace Memory

/-- The settings of a memory. -/
structure Rule where
  writeable : Bool
  maxLength : Value

/-- What is stored after a tick: a present signal, while the lock pin lets it in. -/
def store (rule : Rule) (stored lock signal : Value) : Value :=
  let unlocked := lock.reading?.any fun n => (Number.int 0).lt n
  if rule.writeable && unlocked && signal.isPresent then
    match signal with
    | .text s => .text ((Value.text s).cut rule.maxLength)
    | v => v
  else stored

end Memory

end TickCircuit

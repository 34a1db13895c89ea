import TickCircuit.Circuit.Editing
import TickCircuit.Engine.Tick
import TickCircuit.Log

/-!
# Sessions

A session is a circuit that is edited and run while observers are told what happens. A timer may
drive the ticks. What observers are told, what the timer is asked to do and what is logged is kept
in a trace.

An observer may fail. Some failures are only logged; any other one ends the action, and then the
observers behind it are not told, though what the action had done by then stays done.
-/

namespace TickCircuit

/-- Someone who is told about events, and how they fail whenever they are told something. -/
structure Observer where
  name : String
  failure : Option FaultKind
  deriving Repr, DecidableEq

/-- What a timer is asked to do. -/
inductive TimerCall where
  | create
  | connect
  | start (milliseconds : Int)
  | stop
  deriving Repr, DecidableEq

/-- An event that an observer was told. -/
structure Notice where
  observer : String
  event : Event

/-- What has happened, in the order in which it did. -/
structure Trace where
  notices : List Notice := []
  timerCalls : List TimerCall := []
  log : List Log.Entry := []

structure Session where
  circuit : Circuit
  engine : Engine
  observers : List Observer
  /-- Whether the timer is active, once there is one. -/
  timer : Option Bool
  running : Bool
  trace : Trace

/-- An action on a session. What it changes before it ends in a fault stays changed. -/
abbrev Action (α : Type) := ExceptT Fault (StateM Session) α

namespace Session

/-- A session that has not been run. -/
def start (circuit : Circuit) (engine : Engine) (observers : List Observer) : Session :=
  ⟨circuit, engine, observers, none, false, {}⟩

/-! ## §1 The Trace -/

def note (entries : List Log.Entry) : Action Unit :=
  modify fun s => { s with trace := { s.trace with log := s.trace.log ++ entries } }

def askTimer (call : TimerCall) : Action Unit :=
  modify fun s => { s with trace := { s.trace with timerCalls := s.trace.timerCalls ++ [call] } }

/-- The failures of observers that are only logged. -/
def isTolerated : FaultKind → Bool
  | .type => true
  | .member => true
  | .other name => name == "RuntimeError"
  | _ => false

/-- The report that an observer has failed. -/
def observerEntry (event : Event) (detail : String) : Log.Entry :=
  ⟨.error, .editing, "Error notifying observer of '" ++ event.name ++ "':", some detail⟩

/-- Tells one observer about an event. -/
def tell (event : Event) (o : Observer) : Action Unit := do
  modify fun s =>
    { s with trace := { s.trace with notices := s.trace.notices ++ [⟨o.name, event⟩] } }
  match o.failure with
  | none => return
  | some kind =>
    if isTolerated kind then note [observerEntry event o.name] else throw (.observer kind o.name)

/-- Tells all observers about an event. -/
def announce (event : Event) : Action Unit := do (← get).observers.forM (tell event)

/-- Adds an observer, unless it is there. -/
def observe (o : Observer) : Action Unit :=
  modify fun s => if s.observers.contains o then s else { s with observers := s.observers ++ [o] }

/-- Removes an observer, if it is there. -/
def unobserve (o : Observer) : Action Unit :=
  modify fun s => { s with observers := s.observers.erase o }

/-! ## §2 Editing -/

/-- Carries out an edit and announces its events. -/
def edit {α : Type} (change : Circuit → Edited α) : Action α := do
  let edited := change (← get).circuit
  modify fun s => { s with circuit := edited.circuit }
  edited.events.forM announce
  edited.result

/-! ## §3 Running -/

/-- Takes over the engine and the circuit after ticks. -/
def adopt (t : Ticked) : Action Unit := do
  modify fun s => { s with engine := t.engine, circuit := t.circuit }
  note t.log
  match t.fault with
  | some e => throw e
  | none => return

/-- Runs one tick and announces it. -/
def step : Action Unit := do
  let s ← get
  adopt (s.engine.tick s.circuit)
  announce (.tickCompleted (← get).engine.ticks)

/-- Runs some ticks, each announced. -/
def runTicks : (count : Nat) → Action Unit
  | 0 => return
  | count + 1 => do
    step
    runTicks count

/-- Runs some ticks without announcing them. -/
def runSilently (count : Nat) : Action Unit := do
  let s ← get
  adopt (s.engine.run s.circuit count)

/-- Sets clock and components back to the start. -/
def reset : Action Unit := do
  let s ← get
  adopt (s.engine.reset s.circuit)
  announce .runReset

/-! ## §4 The Timer -/

/-- A tick interval as a number, which has to be positive. -/
def positiveInterval (v : Value) : Except Fault Number :=
  match v.number? with
  | some n => if n.le (.int 0) then .error (.refused (.intervalNotPositive v)) else .ok n
  | none => .error .wrongKind

/-- A number as a `Float`, unless it is too large. -/
def floatOf : Number → Except Fault Float
  | .int n => if Binary.holdsInt n then .ok (Binary.ofInt n) else .error .intToFloat
  | .real x => .ok x

/-- The period of a timer: the nearest whole number of milliseconds, and at least one. -/
def timerPeriod (n : Number) : Except Fault Int :=
  match n with
  | .int n => .ok (max 1 n)
  | .real x =>
    match Binary.roundHalfEven? x with
    | some n => .ok (max 1 n)
    | none => .error (if x.isNaN then .nanToInt else .infiniteToInt)

/-- The interval that was asked for; without one the present interval stays. -/
def askedInterval (present : Float) : Value → Value
  | .null => .real present
  | v => v

/-- Starts the timer, or gives it another interval while it is running. -/
def startTimer (interval : Value) : Action Unit := do
  let asked := askedInterval (← get).engine.interval interval
  let n ← positiveInterval asked
  let milliseconds ← floatOf n
  modify fun s => { s with engine := { s.engine with interval := milliseconds } }
  if (← get).timer.isNone then
    askTimer .create
    askTimer .connect
    modify fun s => { s with timer := some false }
  askTimer (.start (← timerPeriod n))
  let wasRunning := (← get).running
  modify fun s => { s with timer := some true, running := true }
  if !wasRunning then
    note [⟨.info, .running, "Simulation started (tick interval " ++ asked.display ++ " ms)", none⟩]
    announce .runStarted

/-- Stops the timer. -/
def stopTimer : Action Unit := do
  if (← get).running then
    askTimer .stop
    modify fun s => { s with timer := some false, running := false }
    note [⟨.info, .running,
      "Simulation stopped after " ++ toString (← get).engine.ticks ++ " ticks", none⟩]
    announce .runStopped

/-- Lets the timer run out some times, as long as it is active. -/
def timeOut : (times : Nat) → Action Unit
  | 0 => return
  | times + 1 => do
    if (← get).timer == some true then step
    timeOut times

end Session

/-! ## §5 Readings -/

namespace Circuit

/-- The signals that a component emitted in the last tick. -/
def outputsOf (c : Circuit) (id : Value) : Except Fault Pins := do
  return match ← c.find? id with
    | some component => component.outputs
    | none => []

/-- The signal by which a component is read: the value of a sink, the first output of another. -/
def reading (component : Component) : Value :=
  match component.type.outputPins with
  | [] => if component.value matches .null then .absent else component.value
  | pin :: _ => component.outputs.read pin

/-- The reading of the component with an id. -/
def readingOf (c : Circuit) (id : Value) : Except Fault Value := do
  return match ← c.find? id with
    | some component => reading component
    | none => .absent

end Circuit

end TickCircuit

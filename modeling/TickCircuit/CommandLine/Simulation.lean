import TickCircuit.CommandLine.Request
import TickCircuit.Document.Printer
import TickCircuit.Engine.SettingsFile
import TickCircuit.Session.Basic

/-!
# Simulations

A simulation runs a circuit for a number of ticks and reports how long that took in simulated time
and what every component reads at the end. A traced simulation reports the readings after each tick
as well. The trace is kept beside the run and has no part in it.
-/

namespace TickCircuit.CommandLine

/-! ## §1 Reports -/

/-- The readings of all components, null where there is no signal. -/
def readings (c : Circuit) : Record :=
  c.components.map fun e =>
    let v := Circuit.reading e.2
    (e.1, if v.isPresent then v else .null)

/-- The readings after a tick. -/
structure Frame where
  tick : Nat
  values : Record

/-- What is reported about a simulation. -/
structure Report where
  ticks : Nat
  elapsed : Float
  values : Record
  /-- The readings after each tick, if they are wanted. -/
  trace : Option (List Frame)

def Frame.toDocument (f : Frame) : Value :=
  .object (Record.ofFields [("tick", .int f.tick), ("values", .object f.values)])

def Report.toDocument (r : Report) : Value :=
  .object (Record.ofFields ([("ticks", .int r.ticks), ("elapsed_ms", .real r.elapsed),
    ("values", .object r.values)] ++
    (match r.trace with
      | some frames => [("trace", .list (frames.map Frame.toDocument))]
      | none => [])))

/-- The text of a report. -/
def Report.text (r : Report) : String := Document.print r.toDocument

/-! ## §2 Runs -/

/-- Runs ticks until one ends in a fault, and keeps the readings after each. -/
def follow (e : Engine) (c : Circuit) : (count : Nat) → Ticked × List Frame
  | 0 => ({ engine := e, circuit := c }, [])
  | count + 1 =>
    let t := e.tick c
    if t.fault.isSome then (t, [])
    else
      let (last, frames) := follow t.engine t.circuit count
      ({ last with log := t.log ++ last.log }, ⟨t.engine.ticks, readings t.circuit⟩ :: frames)

/-- What came of a simulation, and what was logged until then. -/
structure Outcome where
  log : List Log.Entry
  result : Except Fault Report

/-- The entry that closes the log of a run. -/
def ranEntry (ticks components : Nat) : Log.Entry :=
  ⟨.info, .commandLine, "Ran " ++ toString ticks ++ " ticks over " ++ toString components ++
    " components", none⟩

/-- Runs a circuit on an engine. -/
def simulateOn (e : Engine) (ticks : Nat) (traced : Bool) (c : Circuit) : Outcome :=
  let (last, frames) := follow e c ticks
  match last.fault with
  | some fault => ⟨last.log, .error fault⟩
  | none =>
    ⟨last.log ++ [ranEntry last.engine.ticks last.circuit.components.length],
      .ok ⟨last.engine.ticks, last.engine.elapsed, readings last.circuit,
        if traced then some frames else none⟩⟩

/-! ## §3 Settings -/

/-- The settings with what the command line puts in their place. -/
def RunOptions.applyTo (o : RunOptions) (s : EngineSettings) : EngineSettings :=
  let s := match o.interval with
    | some x => { s with tickInterval := .real x }
    | none => s
  match o.seed with
  | some n => { s with seed := some n }
  | none => s

/-- The engine for some settings, whose tick has to take time. -/
def startEngine (s : EngineSettings) : Except Fault Engine := do
  let _ ← Session.positiveInterval (.ofNumber s.tickInterval)
  Engine.start s

/-- Runs a circuit as the command line says, on the settings that were loaded. -/
def simulate (o : RunOptions) (loaded : EngineSettings) (c : Circuit) : Outcome :=
  match startEngine (o.applyTo loaded) with
  | .error e => ⟨[], .error e⟩
  | .ok engine => simulateOn engine o.ticks.toNat o.traced c

end TickCircuit.CommandLine

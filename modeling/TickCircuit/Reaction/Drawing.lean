import TickCircuit.Component.State
import TickCircuit.Engine.Settings
import TickCircuit.Random.Checksum
import TickCircuit.Signal.Reading

/-!
# Random Draws

A random component draws a whole number in its first tick and then whenever its period has passed.
Its generator is seeded by the seed of the run together with its id, so that components with
different ids draw independently.
-/

namespace TickCircuit.Dice

/-- The seed of a component. A run without a seed uses the empty one. -/
def seed (run : Option Nat) (id : Value) : Except Fault (List Nat) :=
  match run, id with
  | none, _ => .ok []
  | some n, .text name => .ok [n, (Random.textChecksum name).toNat]
  | some _, v => .error (.noMember v.kindName "encode")

/-- The settings of a random component. -/
structure Rule where
  min : Value
  max : Value
  period : Value

/-- The bounds of a draw in ascending order. -/
def Rule.bounds (r : Rule) : Int × Int :=
  let low := r.min.wholeReading?.getD 0
  let high := r.max.wholeReading?.getD 0
  if high < low then (high, low) else (low, high)

/-- The time between two draws: a positive number of milliseconds, or else one tick. -/
def Rule.periodOr (r : Rule) (interval : Float) : Number :=
  match r.period.reading? with
  | some n => if (Number.int 0).lt n then n else .real interval
  | none => .real interval

/-- It is time for a draw. -/
def isDue (d : Dice) (period : Number) (now : Float) : Bool :=
  match d.lastDraw with
  | none => true
  | some last => period.le (.real (now - last))

/-- A draw with a generator. -/
def draw (d : Dice) (g : Random.Generator) (low high : Int) (now : Float) :
    Except Fault Unit × Dice :=
  if !Random.Generator.holdsBound low then (.error (.drawBound true), d)
  else if !Random.Generator.holdsBound high then (.error (.drawBound false), d)
  else
    let (n, g) := g.between low high
    (.ok (), ⟨some now, .int n, some g⟩)

/-- The component after a tick. The generator is made before the first draw and stays even if the
draw fails. -/
def roll (d : Dice) (rule : Rule) (run : Option Nat) (id : Value) (interval now : Float) :
    Except Fault Unit × Dice :=
  let generator : Except Fault Random.Generator := match d.generator with
    | some g => .ok g
    | none => (seed run id).map Random.Generator.ofSeed
  match generator with
  | .error e => (.error e, d)
  | .ok g =>
    let d := { d with generator := some g }
    if d.isDue (rule.periodOr interval) now then
      let (low, high) := rule.bounds
      d.draw g low high now
    else (.ok (), d)

end TickCircuit.Dice

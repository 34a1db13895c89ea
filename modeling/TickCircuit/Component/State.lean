import TickCircuit.Component.History
import TickCircuit.Component.Kind
import TickCircuit.Random.Generator

/-!
# States

What components keep from one tick to the next. Each kind of component has a shape of state, and the
shape determines the type of the state, so a component never meets a state of another kind. The
initial state depends on the settings.
-/

namespace TickCircuit

/-! ## §1 The States -/

/-- A relay. -/
structure Switch where
  isOn : Bool
  lastToggle : Value

/-- A selector. -/
structure Selection where
  channel : Int
  lastMove : Value

/-- A value that waits for its release. -/
structure Held where
  value : Value
  release : Float

/-- A delay. -/
structure DelayLine where
  /-- The values that wait, in the order in which they came. -/
  held : List Held
  /-- The value that was queued last. -/
  lastQueued : Value
  /-- The input of the tick before. -/
  lastInput : Value

/-- A light. -/
structure Lamp where
  isOn : Bool
  color : Value

/-- A source of random numbers. -/
structure Dice where
  /-- The time of the last draw. -/
  lastDraw : Option Float
  output : Value
  /-- The generator, once it has been used. -/
  generator : Option Random.Generator

/-! ## §2 Shapes -/

/-- The shapes of states. -/
inductive Shape where
  | stateless
  | oscillator
  | relay
  | selector
  | latch
  | delay
  | memory
  | button
  | light
  | random
  | window
  deriving Repr, DecidableEq

/-- The states of a shape. -/
@[reducible] def Shape.State : Shape → Type
  | stateless => Unit
  /- The phase: the number of cycles since the start. -/
  | oscillator => Float
  | relay => Switch
  | selector => Selection
  /- The value that was emitted last. -/
  | latch => Value
  | delay => DelayLine
  /- The stored value. -/
  | memory => Value
  /- Whether the button is pressed. -/
  | button => Bool
  | light => Lamp
  | random => Dice
  | window => History

/-- The shape of the states of a kind. -/
@[reducible] def Kind.shape : Kind → Shape
  | .oscillator => .oscillator
  | .relay => .relay
  | .inputSelector | .outputSelector => .selector
  | .regEx | .not => .latch
  | .random => .random
  | .delay => .delay
  | .memory => .memory
  | .button => .button
  | .light => .light
  | .adder | .subtract | .multiply | .divide => .window
  | .equals | .and | .or | .xor | .greater => .window
  | _ => .stateless

/-! ## §3 Initial States -/

/-- A setting that counts as zero when it says nothing. -/
def orZero (v : Value) : Value := if v.truthy then v else .int 0

/-- The channel that is selected at first. What is no whole number selects channel zero; an infinity
is a fault. -/
def initialChannel (settings : Record) : Except Fault Int :=
  match (orZero (settings.setting "selectedConnection")).toInt with
  | .ok n => .ok n
  | .error e => if e.kind == .range then .error e else .ok 0

/-- The initial state of a shape under settings. -/
def Shape.initial : (s : Shape) → Record → Except Fault s.State
  | stateless, _ => .ok ()
  | oscillator, _ => .ok (0.0 : Float)
  | relay, settings => .ok ⟨(settings.setting "isOn").truthy, .absent⟩
  | selector, settings => do return ⟨← initialChannel settings, .absent⟩
  | latch, _ => .ok Value.absent
  | delay, _ => .ok ⟨[], .absent, .absent⟩
  | memory, settings => .ok ((Table.get? settings "value").getD (.int 0))
  | button, _ => .ok false
  | light, settings =>
    .ok ⟨(settings.setting "isOn").truthy, (Table.get? settings "color").getD (.text "#ffffff")⟩
  | random, _ => .ok ⟨none, .absent, none⟩
  | window, _ => .ok (History.empty History.standardLimit)

end TickCircuit

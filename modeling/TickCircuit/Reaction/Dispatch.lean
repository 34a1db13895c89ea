import TickCircuit.Circuit.Basic
import TickCircuit.Reaction.Basic
import TickCircuit.Reaction.Coloring
import TickCircuit.Reaction.Drawing
import TickCircuit.Reaction.Gate
import TickCircuit.Reaction.Matching
import TickCircuit.Reaction.Oscillation
import TickCircuit.Reaction.Selecting
import TickCircuit.Reaction.Storing
import TickCircuit.Reaction.Switching
import TickCircuit.Reaction.Trigonometry
import TickCircuit.Reaction.Unary

/-!
# How Each Kind Reacts

`Reaction.ofKind` ties the pins and the settings of every kind to what its components do. A component
reads nothing but its stimulus and its own state, and of the broadcasts only those of the tick
before.
-/

namespace TickCircuit

namespace Reaction

/-! ## §1 Panel and Sources -/

/-- Emits its literal. -/
def constant (s : Stimulus) : Reaction Unit := pins () s.value [("VALUE_OUT", s.value)]

/-- Keeps the last signal as its value. -/
def display (s : Stimulus) : Reaction Unit :=
  silent () (if (s.input "SIGNAL_IN").isPresent then s.input "SIGNAL_IN" else s.value)

/-- Emits its output while it is pressed. -/
def button (s : Stimulus) (pressed : Bool) : Reaction Bool :=
  let output := s.setting "output"
  signal pressed s.value
    (if pressed then some (if output.isPresent then output else .text "1") else none)

def light (s : Stimulus) (state : Lamp) : Reaction Lamp :=
  let state := state.turn (s.input "TOGGLE_STATE") (s.input "SET_STATE") (s.input "SET_COLOR")
  silent state (.ofFlag state.isOn)

def random (s : Stimulus) (state : Dice) : Reaction Dice :=
  let rule : Dice.Rule := ⟨s.setting "min", s.setting "max", s.setting "period"⟩
  match state.roll rule s.moment.settings.seed s.id s.moment.interval s.moment.now with
  | (.ok (), state) => pins state s.value [("VALUE_OUT", state.output)]
  | (.error e, state) => failed state s.value e

/-! ## §2 Numbers -/

/-- A component without state whose output depends on its input alone. -/
def unary (s : Stimulus) (rule : Value → Option Value) : Reaction Unit :=
  signal () s.value (rule (s.input "SIGNAL_IN"))

/-- One or zero, kept as long as there is no other input if that is wanted. -/
def not (s : Stimulus) (last : Value) : Reaction Value :=
  let v := s.input "SIGNAL_IN"
  if v.isPresent then signal (Unary.negation v) s.value (some (Unary.negation v))
  else signal last s.value
    (some (if (s.setting "continuousOutput").truthy then last else .int 0))

/-- The unit of angles. -/
def inRadians (s : Stimulus) : Bool := (s.settingOr "useRadians" (.flag true)).truthy

def tan (s : Stimulus) : Reaction Unit :=
  unary s (Trigonometry.tan (inRadians s) (s.settingOr "maxValue" (.real 1000000.0))
    (s.settingOr "minValue" (.real (-1000000.0))))

def atan (s : Stimulus) : Reaction Unit :=
  unary s fun v => Trigonometry.atan (inRadians s) v (s.input "SIGNAL_IN_X") (s.input "SIGNAL_IN_Y")

def first (s : Stimulus) : Value := s.input "SIGNAL_IN_1"

def second (s : Stimulus) : Value := s.input "SIGNAL_IN_2"

/-- Combines two numbers; what is no number makes the first signal pass through. -/
def arithmetic (s : Stimulus) (history : History) (operation : Number → Number → Number) :
    Reaction History :=
  match Arithmetic.operand (first s), Arithmetic.operand (second s) with
  | some a, some b =>
    match Arithmetic.finish history s.moment.now (s.setting "timeFrame")
        ⟨s.setting "clampMin", s.setting "clampMax"⟩ (operation a b) with
    | (.ok n, history) => signal history s.value (some (.ofNumber n))
    | (.error e, history) => failed history s.value e
  | _, _ => signal history s.value (some (first s))

def concatenation (s : Stimulus) : Reaction Unit :=
  signal () s.value (Arithmetic.concatenation (s.setting "separator") (s.setting "maxOutputLength")
    (first s) (second s))

/-! ## §3 Gates -/

/-- The text that is emitted for a passed or a failed test. -/
def gateText (s : Stimulus) (passed : Bool) : Value :=
  Gate.choose (s.override "SET_OUTPUT" "output") (s.setting "falseOutput")
    (s.setting "maxOutputLength") passed

/-- A gate with a test of its two inputs. -/
def gate (s : Stimulus) (history : History) (test : Value → Value → Bool) : Reaction History :=
  match Gate.smoothed history s.moment.now (s.setting "timeFrame") (test (first s) (second s)) with
  | (.ok passed, history) => signal history s.value (some (gateText s passed))
  | (.error e, history) => failed history s.value e

def signalCheck (s : Stimulus) : Reaction Unit :=
  let passed := Gate.isTarget (s.override "SET_TARGETSIGNAL" "targetSignal") (s.input "SIGNAL_IN")
  signal () (gateText s passed) (some (gateText s passed))

def matching (s : Stimulus) (last : Value) : Reaction Value :=
  let rule : Matching.Rule := {
    expression := s.setting "expression"
    output := s.override "SET_OUTPUT" "output"
    otherwise := s.setting "falseOutput"
    useGroup := (s.setting "useCaptureGroup").truthy
    emptyGroup := (s.setting "outputEmptyCaptureGroup").truthy
    continuous := (s.setting "continuousOutput").truthy
    maxLength := s.setting "maxOutputLength" }
  match rule.emit last (s.input "SIGNAL_IN") with
  | .ok v => signal v v (some v)
  | .error e => failed last s.value e

/-! ## §4 Time and State -/

/-- Advances the phase, which stays advanced even if no sample can be taken. -/
def oscillator (s : Stimulus) (phase : Float) : Reaction Float :=
  let frequency := Oscillation.frequency (s.input "SET_FREQUENCY") (s.setting "frequency")
  let wave := Oscillation.wave (s.input "SET_OUTPUTTYPE") (s.setting "outputType")
  let after := Oscillation.advance phase frequency s.moment.interval
  match Oscillation.emit wave phase after with
  | .ok v => signal after s.value (some v)
  | .error e => failed after s.value e

/-- The rule of a selector. -/
def selectorRule (s : Stimulus) : Selecting.Rule :=
  ⟨(s.settingOr "wrapAround" (.flag true)).truthy, (s.setting "skipEmptyConnections").truthy⟩

def inputSelector (s : Stimulus) (state : Selection) : Reaction Selection :=
  let connected (channel : Int) : Bool :=
    Circuit.isInputConnected s.moment.wires s.id (.text (Selecting.pin "SIGNAL_IN_" channel))
  let state := (selectorRule s).select connected state (s.input "SET_INPUT") (s.input "MOVE_INPUT")
  let v := s.input (Selecting.pin "SIGNAL_IN_" state.channel)
  pins state (.int state.channel)
    [("SIGNAL_OUT", if v.isPresent then v else .int 0), ("SELECTED_INPUT_OUT", .int state.channel)]

def outputSelector (s : Stimulus) (state : Selection) : Reaction Selection :=
  let connected (channel : Int) : Bool :=
    Circuit.isOutputConnected s.moment.wires s.id (.text (Selecting.pin "SIGNAL_OUT_" channel))
  let state := (selectorRule s).select connected state (s.input "SET_OUTPUT")
    (s.input "MOVE_OUTPUT")
  let selected := Selecting.pin "SIGNAL_OUT_" state.channel
  pins state (.int state.channel)
    ((Kind.channelPins "SIGNAL_OUT_").map (fun p =>
      (p, if p == selected then s.input "SIGNAL_IN" else .absent)) ++
      [("SELECTED_OUTPUT_OUT", .int state.channel)])

def relay (s : Stimulus) (state : Switch) : Reaction Switch :=
  let state := state.turn (s.input "TOGGLE_STATE") (s.input "SET_STATE")
  pins state (.ofFlag state.isOn)
    (if state.isOn then
      [("SIGNAL_OUT_1", first s), ("SIGNAL_OUT_2", second s), ("STATE_OUT", .int 1)]
    else [("SIGNAL_OUT_1", .int 0), ("SIGNAL_OUT_2", .int 0), ("STATE_OUT", .int 0)])

def delay (s : Stimulus) (state : DelayLine) : Reaction DelayLine :=
  let rule : DelayLine.Rule := ⟨(s.setting "resetOnNewSignal").truthy,
    (s.setting "resetOnDifferentSignal").truthy⟩
  let release := s.moment.now +
    DelayLine.milliseconds (s.input "SET_DELAY") (s.setting "delay")
  let (out, state) := (state.receive rule (s.input "SIGNAL_IN") release).release s.moment.now
  signal state s.value out

def memory (s : Stimulus) (stored : Value) : Reaction Value :=
  let rule : Memory.Rule := ⟨(s.setting "writeable").truthy, s.setting "maxValueLength"⟩
  let stored := Memory.store rule stored (s.input "LOCK_STATE") (s.input "SIGNAL_IN")
  signal stored stored (some stored)

/-! ## §5 Broadcasts -/

/-- The channel that an input or else a setting asks for, held within the range of the run. -/
def channel (s : Stimulus) : Int :=
  let low := s.moment.settings.channelMin
  let asked := ((s.input "SET_CHANNEL").wholeReading?.orElse fun _ =>
    (s.setting "channel").wholeReading?).getD low
  max low (min s.moment.settings.channelMax asked)

/-- Sends its input, and emits what was heard on the channel in the tick before. -/
def wifi (s : Stimulus) : Reaction Unit :=
  let heard := s.moment.heard.hear (channel s)
  { signal () heard (some heard) with
    sent := if (s.input "SIGNAL_IN").isPresent then some (channel s, s.input "SIGNAL_IN") else none }

def color (s : Stimulus) : Reaction Unit :=
  signal () s.value (Coloring.pack (s.setting "useHSV").truthy (s.input "SIGNAL_IN_R")
    (s.input "SIGNAL_IN_G") (s.input "SIGNAL_IN_B") (s.input "SIGNAL_IN_A"))

/-! ## §6 All Kinds -/

/-- The reaction of a component of a kind. -/
def ofKind (s : Stimulus) : (k : Kind) → k.shape.State → Reaction k.shape.State
  | .constant, _ => constant s
  | .random, d => random s d
  | .button, b => button s b
  | .display, _ => display s
  | .light, l => light s l
  | .abs, _ => unary s Unary.abs
  | .ceil, _ => unary s Unary.ceil
  | .floor, _ => unary s Unary.floor
  | .round, _ => unary s Unary.round
  | .squareRoot, _ => unary s Unary.squareRoot
  | .factorial, _ => unary s Unary.factorial
  | .not, v => not s v
  | .sin, _ => unary s (Trigonometry.sin (inRadians s))
  | .cos, _ => unary s (Trigonometry.cos (inRadians s))
  | .tan, _ => tan s
  | .asin, _ => unary s (Trigonometry.asin (inRadians s))
  | .acos, _ => unary s (Trigonometry.acos (inRadians s))
  | .atan, _ => atan s
  | .modulo, _ => unary s fun v => Unary.modulo v (s.override "SET_MODULUS" "modulus")
  | .exponentiation, _ => unary s fun v => Unary.power v (s.override "SET_EXPONENT" "exponent")
  | .adder, h => arithmetic s h Number.add
  | .subtract, h => arithmetic s h Number.sub
  | .multiply, h =>
    arithmetic s h (Arithmetic.multiply (s.setting "precision").wholeReading?)
  | .divide, h => arithmetic s h Arithmetic.divide
  | .concatenation, _ => concatenation s
  | .equals, h => gate s h (Gate.equals (s.setting "tolerance"))
  | .and, h => gate s h Gate.both
  | .or, h => gate s h Gate.either
  | .xor, h => gate s h Gate.exactlyOne
  | .greater, h => gate s h Gate.greater
  | .signalCheck, _ => signalCheck s
  | .regEx, v => matching s v
  | .oscillator, p => oscillator s p
  | .inputSelector, c => inputSelector s c
  | .outputSelector, c => outputSelector s c
  | .relay, r => relay s r
  | .wifi, _ => wifi s
  | .delay, d => delay s d
  | .memory, v => memory s v
  | .color, _ => color s

end Reaction

namespace Component

/-- What a component reacts to at a moment. -/
def stimulus (c : Component) (m : Moment) : Stimulus := ⟨c.id, c.settings, c.inputs, c.value, m⟩

/-- What comes of a reaction, the change of the component apart. -/
structure Effect where
  /-- The signals that are emitted; none when nothing is emitted at all. -/
  outputs : Except Fault (Option Pins)
  /-- A channel and the signal sent on it. -/
  sent : Option (Int × Value)

/-- Lets a component react; its pins stay as they are. A foreign type does nothing. -/
def react (m : Moment) : Component → Component × Effect
  | ⟨id, .known k, settings, value, inputs, outputs, state⟩ =>
    let r := Reaction.ofKind ⟨id, settings, inputs, value, m⟩ k state
    (⟨id, .known k, settings, r.value, inputs, outputs, r.state⟩, ⟨r.outputs, r.sent⟩)
  | ⟨id, .foreign t, settings, value, inputs, outputs, state⟩ =>
    (⟨id, .foreign t, settings, value, inputs, outputs, state⟩, ⟨.ok none, none⟩)

end Component

end TickCircuit

import TickCircuit.Value.Table

/-!
# Kinds of Components

The kinds of components a circuit is built from. A kind fixes the name under which it appears in
circuit files, its input and output pins, its default settings and the shape of the state that its
components keep from tick to tick.
-/

namespace TickCircuit

inductive Kind where
  | constant
  | random
  | button
  | display
  | light
  | abs
  | ceil
  | floor
  | round
  | squareRoot
  | factorial
  | not
  | sin
  | cos
  | tan
  | asin
  | acos
  | atan
  | modulo
  | exponentiation
  | adder
  | subtract
  | multiply
  | divide
  | concatenation
  | equals
  | and
  | or
  | xor
  | greater
  | signalCheck
  | regEx
  | oscillator
  | inputSelector
  | outputSelector
  | relay
  | wifi
  | delay
  | memory
  | color
  deriving Repr, DecidableEq

namespace Kind

/-- The name of a kind in circuit files. -/
def name : Kind → String
  | constant => "Constant"
  | random => "Random"
  | button => "Button"
  | display => "Display"
  | light => "Light"
  | abs => "Abs"
  | ceil => "Ceil"
  | floor => "Floor"
  | round => "Round"
  | squareRoot => "SquareRoot"
  | factorial => "Factorial"
  | not => "Not"
  | sin => "Sin"
  | cos => "Cos"
  | tan => "Tan"
  | asin => "Asin"
  | acos => "Acos"
  | atan => "Atan"
  | modulo => "Modulo"
  | exponentiation => "Exponentiation"
  | adder => "Adder"
  | subtract => "Subtract"
  | multiply => "Multiply"
  | divide => "Divide"
  | concatenation => "Concatenation"
  | equals => "Equals"
  | and => "And"
  | or => "Or"
  | xor => "Xor"
  | greater => "Greater"
  | signalCheck => "SignalCheck"
  | regEx => "RegEx"
  | oscillator => "Oscillator"
  | inputSelector => "InputSelector"
  | outputSelector => "OutputSelector"
  | relay => "Relay"
  | wifi => "WiFi"
  | delay => "Delay"
  | memory => "Memory"
  | color => "Color"

/-- Every kind. -/
def all : List Kind :=
  [constant, random, button, display, light, abs, ceil, floor, round, squareRoot, factorial, not,
    sin, cos, tan, asin, acos, atan, modulo, exponentiation, adder, subtract, multiply, divide,
    concatenation, equals, and, or, xor, greater, signalCheck, regEx, oscillator, inputSelector,
    outputSelector, relay, wifi, delay, memory, color]

/-- The kind with a name. -/
def ofName? (name : String) : Option Kind := all.find? fun k => k.name == name

/-! ## §1 Pins -/

/-- How many channels a selector switches between. -/
def channels : Nat := 10

/-- The pins of the channels, numbered from zero. -/
def channelPins (stem : String) : List String :=
  (List.range channels).map fun i => stem ++ toString i

/-- The input pins, in the order in which they are read. -/
def inputPins : Kind → List String
  | constant | random | button => []
  | display => ["SIGNAL_IN"]
  | light => ["TOGGLE_STATE", "SET_STATE", "SET_COLOR"]
  | abs | ceil | floor | round | squareRoot | factorial | not => ["SIGNAL_IN"]
  | sin | cos | tan | asin | acos => ["SIGNAL_IN"]
  | atan => ["SIGNAL_IN", "SIGNAL_IN_X", "SIGNAL_IN_Y"]
  | modulo => ["SIGNAL_IN", "SET_MODULUS"]
  | exponentiation => ["SIGNAL_IN", "SET_EXPONENT"]
  | adder | subtract | multiply | divide | concatenation => ["SIGNAL_IN_1", "SIGNAL_IN_2"]
  | equals | and | or | xor | greater => ["SIGNAL_IN_1", "SIGNAL_IN_2", "SET_OUTPUT"]
  | signalCheck => ["SIGNAL_IN", "SET_TARGETSIGNAL", "SET_OUTPUT"]
  | regEx => ["SIGNAL_IN", "SET_OUTPUT"]
  | oscillator => ["SET_FREQUENCY", "SET_OUTPUTTYPE"]
  | inputSelector => channelPins "SIGNAL_IN_" ++ ["SET_INPUT", "MOVE_INPUT"]
  | outputSelector => ["SIGNAL_IN", "SET_OUTPUT", "MOVE_OUTPUT"]
  | relay => ["SIGNAL_IN_1", "SIGNAL_IN_2", "TOGGLE_STATE", "SET_STATE"]
  | wifi => ["SIGNAL_IN", "SET_CHANNEL"]
  | delay => ["SIGNAL_IN", "SET_DELAY"]
  | memory => ["SIGNAL_IN", "LOCK_STATE"]
  | color => ["SIGNAL_IN_R", "SIGNAL_IN_G", "SIGNAL_IN_B", "SIGNAL_IN_A"]

/-- The output pins. A kind without any is a sink. -/
def outputPins : Kind → List String
  | constant | random => ["VALUE_OUT"]
  | display | light => []
  | inputSelector => ["SIGNAL_OUT", "SELECTED_INPUT_OUT"]
  | outputSelector => channelPins "SIGNAL_OUT_" ++ ["SELECTED_OUTPUT_OUT"]
  | relay => ["SIGNAL_OUT_1", "SIGNAL_OUT_2", "STATE_OUT"]
  | _ => ["SIGNAL_OUT"]

/-! ## §2 Defaults -/

/-- The default settings of components that average over a time window. -/
def arithmeticDefaults : List (String × Value) :=
  [("clampMin", .null), ("clampMax", .null), ("timeFrame", .int 0)]

/-- The default settings of components that choose between two texts. -/
def gateDefaults : List (String × Value) :=
  [("output", .text "1"), ("falseOutput", .text "0"), ("maxOutputLength", .int 200),
    ("timeFrame", .int 0)]

def selectorDefaults : List (String × Value) :=
  [("selectedConnection", .int 0), ("wrapAround", .flag true),
    ("skipEmptyConnections", .flag false)]

/-- The default settings of a kind. -/
def defaultFields : Kind → List (String × Value)
  | random => [("min", .int 0), ("max", .int 100), ("period", .int 1000)]
  | button => [("output", .text "1")]
  | light => [("isOn", .flag false), ("color", .text "#ffffff")]
  | sin | cos | atan => [("useRadians", .flag true)]
  | tan => [("useRadians", .flag true), ("maxValue", .real 1000000.0),
      ("minValue", .real (-1000000.0))]
  | asin | acos => [("useRadians", .flag false)]
  | not => [("continuousOutput", .flag false)]
  | modulo => [("modulus", .int 1)]
  | exponentiation => [("exponent", .int 1)]
  | adder | subtract | divide => arithmeticDefaults
  | multiply => arithmeticDefaults ++ [("precision", .int 0)]
  | concatenation => [("separator", .text ""), ("maxOutputLength", .int 200)]
  | equals => gateDefaults ++ [("tolerance", .real 1e-9)]
  | and | or | xor | greater => gateDefaults
  | signalCheck => [("targetSignal", .text ""), ("output", .text "1"), ("falseOutput", .text "0"),
      ("maxOutputLength", .int 200)]
  | regEx => [("expression", .text ""), ("output", .text "1"), ("falseOutput", .text "0"),
      ("useCaptureGroup", .flag false), ("outputEmptyCaptureGroup", .flag false),
      ("continuousOutput", .flag false), ("maxOutputLength", .int 200)]
  | oscillator => [("frequency", .real 1.0), ("outputType", .int 0)]
  | inputSelector | outputSelector => selectorDefaults
  | relay => [("isOn", .flag false)]
  | wifi => [("channel", .int 1)]
  | delay => [("delay", .real 1.0), ("resetOnNewSignal", .flag false),
      ("resetOnDifferentSignal", .flag false)]
  | memory => [("value", .int 0), ("writeable", .flag true), ("maxValueLength", .int 100)]
  | color => [("useHSV", .flag false)]
  | _ => []

/-- The default settings of a kind, as a table. -/
def defaults (k : Kind) : Record := Record.ofFields k.defaultFields

/-- The literal that components of a kind start with, if they carry one. -/
def literal? : Kind → Option Value
  | constant => some (.text "0")
  | _ => none

end Kind

end TickCircuit

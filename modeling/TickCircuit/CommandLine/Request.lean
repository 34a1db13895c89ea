import TickCircuit.CommandLine.Grammar
import TickCircuit.Number.Reading

/-!
# Requests

What the program can be asked to do: run a circuit, validate it, or run many circuits. A request is
read from the words of a command line, first those of the program and then those of the command.
-/

namespace TickCircuit.CommandLine

/-- How circuits are run. -/
structure RunOptions where
  ticks : Int := 10
  /-- The length of a tick, in place of the one in the settings. -/
  interval : Option Float := none
  /-- The seed of the random components, in place of the one in the settings. -/
  seed : Option Nat := none
  /-- The file that holds the engine settings. -/
  settingsFile : Option String := none
  /-- The readings after every tick are wanted too. -/
  traced : Bool := false

/-- What the program is asked to do. -/
inductive Request where
  /-- Runs the circuit in a file; the report goes to the file `output` if there is one. -/
  | run (circuit : String) (output : Option String) (options : RunOptions)
  | validate (circuit : String)
  /-- Runs every circuit in a directory, or whose path a wildcard describes. -/
  | batch (circuits : String) (directory : Option String) (failFast : Bool) (options : RunOptions)

/-- A request, and whether the log is wanted. -/
structure Invocation where
  verbose : Bool
  request : Request

/-! ## §1 Values of Switches -/

/-- A name of a file; an empty text names none. -/
def namedFile (text : String) : Option String := if text.isEmpty then none else some text

/-- The complaint that a text does not spell a value of some kind. -/
def notA (kind text : String) : String := "invalid " ++ kind ++ " value: " ++ Quoted.quote text

def ticksOf (text : String) : Except String Int :=
  match Reading.int? text with
  | some n => .ok n
  | none => .error (notA "int" text)

def intervalOf (text : String) : Except String Float :=
  match Reading.float? text with
  | some x => .ok x
  | none => .error (notA "float" text)

def seedOf (text : String) : Except String Nat :=
  match Reading.int? text with
  | some n => if 0 ≤ n then .ok n.toNat else .error ("must not be negative: " ++ toString n)
  | none => .error (notA "_non_negative_int" text)

/-! ## §2 Texts -/

/-- The usage of the program. -/
def programUsage : String :=
  "usage: pulseboard-cli [-h] [--verbose] \x7brun,validate,batch\x7d ...\n"

/-- The help of the program. -/
def programDetails : String :=
  "\n" ++
  "PulseBoard batch operations: run and validate circuits from the command line.\n" ++
  "\n" ++
  "positional arguments:\n" ++
  "  \x7brun,validate,batch\x7d\n" ++
  "    run                 Run a circuit and output component values\n" ++
  "    validate            Check a circuit file for errors without running it\n" ++
  "    batch               Run multiple circuit files\n" ++
  "\n" ++
  "options:\n" ++
  "  -h, --help            show this help message and exit\n" ++
  "  --verbose, -v         Log simulation events to stderr\n"

/-- The usage of the command `run`. -/
def runUsage : String :=
  "usage: pulseboard-cli run [-h] [--output OUTPUT] [--ticks TICKS]\n" ++
  "                          [--interval INTERVAL] [--seed SEED]\n" ++
  "                          [--settings SETTINGS] [--trace]\n" ++
  "                          circuit\n"

/-- The help of the command `run`. -/
def runDetails : String :=
  "\n" ++
  "positional arguments:\n" ++
  "  circuit               Path to circuit JSON file\n" ++
  "\n" ++
  "options:\n" ++
  "  -h, --help            show this help message and exit\n" ++
  "  --output OUTPUT, -o OUTPUT\n" ++
  "                        Write results to file instead of stdout\n" ++
  "  --ticks TICKS, -n TICKS\n" ++
  "                        Number of ticks to run (default: 10)\n" ++
  "  --interval INTERVAL   Tick interval in milliseconds of simulated time\n" ++
  "  --seed SEED           Seed for Random components\n" ++
  "  --settings SETTINGS   Path to a simulation settings JSON file\n" ++
  "  --trace               Include the values after every tick\n"

/-- The usage of the command `validate`. -/
def validateUsage : String :=
  "usage: pulseboard-cli validate [-h] circuit\n"

/-- The help of the command `validate`. -/
def validateDetails : String :=
  "\n" ++
  "positional arguments:\n" ++
  "  circuit     Path to circuit JSON file\n" ++
  "\n" ++
  "options:\n" ++
  "  -h, --help  show this help message and exit\n"

/-- The usage of the command `batch`. -/
def batchUsage : String :=
  "usage: pulseboard-cli batch [-h] [--output-dir OUTPUT_DIR] [--fail-fast]\n" ++
  "                            [--ticks TICKS] [--interval INTERVAL]\n" ++
  "                            [--seed SEED] [--settings SETTINGS] [--trace]\n" ++
  "                            path\n"

/-- The help of the command `batch`. -/
def batchDetails : String :=
  "\n" ++
  "positional arguments:\n" ++
  "  path                  Directory or glob pattern matching circuit JSON files\n" ++
  "\n" ++
  "options:\n" ++
  "  -h, --help            show this help message and exit\n" ++
  "  --output-dir OUTPUT_DIR\n" ++
  "                        Write per-file results to this directory\n" ++
  "  --fail-fast           Stop on first error\n" ++
  "  --ticks TICKS, -n TICKS\n" ++
  "                        Number of ticks to run (default: 10)\n" ++
  "  --interval INTERVAL   Tick interval in milliseconds of simulated time\n" ++
  "  --seed SEED           Seed for Random components\n" ++
  "  --settings SETTINGS   Path to a simulation settings JSON file\n" ++
  "  --trace               Include the values after every tick\n"

/-! ## §3 Grammars -/

/-- The switch that asks for help. -/
def helpSwitch {σ : Type} : Switch σ := ⟨["-h", "--help"], .help⟩

/-- The switches that say how circuits are run, inside the settings of a command. -/
def runSwitches {σ : Type} (inside : (RunOptions → RunOptions) → σ → σ) : List (Switch σ) := [
  ⟨["--ticks", "-n"], .value fun text => do
    let ticks ← ticksOf text
    return inside fun o => { o with ticks }⟩,
  ⟨["--interval"], .value fun text => do
    let interval ← intervalOf text
    return inside fun o => { o with interval := some interval }⟩,
  ⟨["--seed"], .value fun text => do
    let seed ← seedOf text
    return inside fun o => { o with seed := some seed }⟩,
  ⟨["--settings"], .value fun text =>
    return inside fun o => { o with settingsFile := namedFile text }⟩,
  ⟨["--trace"], .mark (inside fun o => { o with traced := true })⟩]

/-- What the program itself is told: whether the log is wanted. -/
def programGrammar : Grammar Bool where
  program := "pulseboard-cli"
  usage := programUsage
  details := programDetails
  switches := [helpSwitch, ⟨["--verbose", "-v"], .mark fun _ => true⟩]
  operand := "command"
  takesRest := true

/-- What `run` is told besides the circuit. -/
structure RunWords where
  output : Option String := none
  options : RunOptions := {}

def runGrammar : Grammar RunWords where
  program := "pulseboard-cli run"
  usage := runUsage
  details := runDetails
  switches := [helpSwitch,
    ⟨["--output", "-o"], .value fun text => return fun w => { w with output := namedFile text }⟩] ++
    runSwitches fun f w => { w with options := f w.options }
  operand := "circuit"
  takesRest := false

def validateGrammar : Grammar Unit where
  program := "pulseboard-cli validate"
  usage := validateUsage
  details := validateDetails
  switches := [helpSwitch]
  operand := "circuit"
  takesRest := false

/-- What `batch` is told besides the circuits. -/
structure BatchWords where
  directory : Option String := none
  failFast : Bool := false
  options : RunOptions := {}

def batchGrammar : Grammar BatchWords where
  program := "pulseboard-cli batch"
  usage := batchUsage
  details := batchDetails
  switches := [helpSwitch,
    ⟨["--output-dir"], .value fun text =>
      return fun w => { w with directory := namedFile text }⟩,
    ⟨["--fail-fast"], .mark fun w => { w with failFast := true }⟩] ++
    runSwitches fun f w => { w with options := f w.options }
  operand := "path"
  takesRest := false

/-! ## §4 Reading -/

/-- The commands of the program. -/
inductive Command where
  | run
  | validate
  | batch
  deriving Repr, DecidableEq

/-- The word for a command. -/
def Command.name : Command → String
  | run => "run"
  | validate => "validate"
  | batch => "batch"

def commands : List Command := [.run, .validate, .batch]

/-- The request that the words behind a command make, and the words that have no place. -/
def Command.request (words : List String) : Command → Except Stop (Request × List String)
  | run => do
    let p ← runGrammar.parse {} words
    return (.run (p.operand.headD "") p.settings.output p.settings.options, p.extras)
  | validate => do
    let p ← validateGrammar.parse () words
    return (.validate (p.operand.headD ""), p.extras)
  | batch => do
    let p ← batchGrammar.parse {} words
    return (.batch (p.operand.headD "") p.settings.directory p.settings.failFast p.settings.options,
      p.extras)

/-- The complaint that a word is no command. -/
def notACommand (word : String) : String :=
  "argument command: invalid choice: " ++ Quoted.quote word ++ " (choose from " ++
    String.intercalate ", " (commands.map fun c => Quoted.quote c.name) ++ ")"

/-- What the words of a command line ask for. -/
def Invocation.ofWords (words : List String) : Except Stop Invocation := do
  let p ← programGrammar.parse false words
  let word := p.operand.headD ""
  match commands.find? (·.name == word) with
  | none => programGrammar.misuse (notACommand word)
  | some command =>
    let (request, extras) ← command.request (p.operand.drop 1)
    let extras := p.extras ++ extras
    if extras.isEmpty then return ⟨p.settings, request⟩
    else programGrammar.misuse ("unrecognized arguments: " ++ String.intercalate " " extras)

end TickCircuit.CommandLine

import TickCircuit.CommandLine.CircuitFile
import TickCircuit.CommandLine.FileSystem
import TickCircuit.CommandLine.Simulation
import TickCircuit.CommandLine.Summary

/-!
# The Program

The commands of the program, over any file system. What is printed is collected on a console. A
command ends with an exit code, or with a failure that no command expects.

A circuit that cannot be loaded and a simulation that is refused are expected: they are reported,
and in a batch the other files still have their turn.
-/

namespace TickCircuit.CommandLine

/-- What has been printed. -/
structure Console where
  out : String := ""
  err : String := ""

/-- What ends a command before it is done. -/
inductive Failure where
  | fault (cause : Fault)
  | file (problem : FileProblem) (path : String)

/-- The wording of a failure. -/
def Failure.message : Failure → String
  | fault cause => cause.message
  | file problem path => problem.message ++ ": " ++ Quoted.quote path

/-- A part of a command. What it printed before it failed stays printed. -/
abbrev Job (m : Type → Type) (α : Type) := ExceptT Failure (StateT Console m) α

namespace Program

variable {m : Type → Type} [Monad m]

/-! ## §1 Printing -/

def print (text : String) : Job m Unit :=
  modify fun console => { console with out := console.out ++ text }

def complain (text : String) : Job m Unit :=
  modify fun console => { console with err := console.err ++ text }

/-- The text of a log entry on the console. Without `verbose` only warnings and errors appear, and
without their origin. -/
def entryText (verbose : Bool) (e : Log.Entry) : String :=
  if verbose then e.level.name ++ " " ++ e.source.name ++ ": " ++ e.full ++ "\n"
  else if e.level == .info then ""
  else e.full ++ "\n"

def record (verbose : Bool) (entries : List Log.Entry) : Job m Unit :=
  complain (String.join (entries.map (entryText verbose)))

/-! ## §2 Files -/

/-- The outcome of an operation on the file at a path. -/
def use {α : Type} (path : String) (act : m (Except FileProblem α)) : Job m α := do
  match ← act with
  | .ok a => return a
  | .error problem => throw (.file problem path)

/-- A result, or the fault as the failure of the command. -/
def require {α : Type} : Except Fault α → Job m α
  | .ok a => return a
  | .error e => throw (.fault e)

/-- The circuit in a file. -/
def loadCircuit (fs : FileSystem m) (path : String) : Job m (Except Rejection Circuit) := do
  let p := Path.ofText path
  match ← use path (fs.entry? p) with
  | none => return .error (.notFound path)
  | some _ => require (CircuitFile.load path (← use path (fs.read p)))

/-- The warning that a settings file could not be used. -/
def settingsEntry (path : String) (problem : FileProblem) : Log.Entry :=
  ⟨.warning, .settings, "Failed to load simulation settings from " ++ path ++ ":",
    some (Failure.file problem path).message⟩

/-- The settings in a file that may be there, and what is to be said about it. -/
def loadSettings (fs : FileSystem m) : (file : Option String) →
    Job m (Except Fault (EngineSettings × List Log.Entry))
  | none => return .ok (.standard, [])
  | some file => do
    let p := Path.ofText file
    match ← use file (fs.entry? p) with
    | none => return SettingsFile.load p.text none
    | some _ =>
      match ← fs.read p with
      | .ok content => return SettingsFile.load p.text (some content)
      | .error problem => return .ok (.standard, [settingsEntry p.text problem])

/-! ## §3 Running -/

/-- A result, or the reason for which it was refused. Other faults are failures. -/
def refusal {α : Type} : Except Fault α → Job m (Except String α)
  | .ok a => return .ok a
  | .error e => if e.kind == .value then return .error e.message else throw (.fault e)

/-- Runs a circuit under the settings of the command line. -/
def runCircuit (fs : FileSystem m) (verbose : Bool) (o : RunOptions) (c : Circuit) :
    Job m (Except String Report) := do
  match ← refusal (← loadSettings fs o.settingsFile) with
  | .error reason => return .error reason
  | .ok (settings, log) =>
    let outcome := simulate o settings c
    record verbose (log ++ outcome.log)
    refusal outcome.result

/-! ## §4 Commands -/

/-- Prints an error. -/
def fail (text : String) : Job m Nat := do
  complain ("Error: " ++ text ++ "\n")
  return 1

/-- Runs the circuit in a file and reports. -/
def run (fs : FileSystem m) (verbose : Bool) (circuit : String) (output : Option String)
    (o : RunOptions) : Job m Nat := do
  match ← loadCircuit fs circuit with
  | .error rejection => fail rejection.message
  | .ok c =>
    match ← runCircuit fs verbose o c with
    | .error reason => fail reason
    | .ok report =>
      match output with
      | some file =>
        use file (fs.write (Path.ofText file) report.text)
        complain ("Results written to " ++ file ++ "\n")
      | none => print (report.text ++ "\n")
      return 0

/-- Tells whether a file holds a circuit. -/
def validate (fs : FileSystem m) (circuit : String) : Job m Nat := do
  match ← loadCircuit fs circuit with
  | .error rejection =>
    complain ("Circuit has errors: " ++ circuit ++ "\n  - " ++ rejection.message ++ "\n")
    return 1
  | .ok c =>
    print ("Circuit is valid: " ++ circuit ++ "\n  " ++ toString c.components.length ++
      " components, " ++ toString c.wires.length ++ " wires\n")
    return 0

/-- Runs one file of a batch. -/
def batchFile (fs : FileSystem m) (verbose : Bool) (o : RunOptions) (directory : Option Path)
    (file : Path) : Job m Verdict := do
  match ← loadCircuit fs file.text with
  | .error rejection => return .rejected rejection.message
  | .ok c =>
    match ← runCircuit fs verbose o c with
    | .error reason => return .failed reason
    | .ok report =>
      match directory with
      | some d =>
        let target := d.child (file.stem ++ ".json")
        use target.text (fs.write target report.text)
      | none => pure ()
      return .ran report.ticks

/-- Runs the files of a batch; with `failFast`, up to the first one that does not succeed. -/
def batchFiles (fs : FileSystem m) (verbose : Bool) (o : RunOptions) (directory : Option Path)
    (failFast : Bool) : List Path → Job m (List SummaryLine)
  | [] => return []
  | file :: rest => do
    let verdict ← batchFile fs verbose o directory file
    let line : SummaryLine := ⟨file.name, verdict⟩
    if failFast && !verdict.isSuccess then return [line]
    else return line :: (← batchFiles fs verbose o directory failFast rest)

/-- The files that a batch is about: the documents in a directory, or whatever a wildcard
describes. -/
def batchPaths (fs : FileSystem m) (circuits : String) : Job m (Option (List Path)) := do
  let p := Path.ofText circuits
  if (← use circuits (fs.entry? p)) == some .directory then
    let names := (← fs.entries p).map Prod.fst
    return some (Path.sort ((names.filter (Wildcard.holds "*.json")).map p.child))
  else if circuits.toList.any fun c => c == '*' || c == '?' then
    return some (Path.sort (← fs.matching circuits))
  else return none

/-- Runs many files and sums up what came of them. -/
def batch (fs : FileSystem m) (verbose : Bool) (circuits : String) (directory : Option String)
    (failFast : Bool) (o : RunOptions) : Job m Nat := do
  match ← batchPaths fs circuits with
  | none => fail (circuits ++ " is not a directory or glob pattern")
  | some [] =>
    complain ("No .json circuit files found matching: " ++ circuits ++ "\n")
    return 1
  | some files =>
    let target := directory.map Path.ofText
    match target with
    | some d => use d.text (fs.makeDirectories d)
    | none => pure ()
    let lines ← batchFiles fs verbose o target failFast files
    print (Summary.text lines)
    return if Summary.isSuccess lines then 0 else 1

/-! ## §5 Command Lines -/

/-- Carries out a request. Circuits are not run for a negative number of ticks. -/
def perform (fs : FileSystem m) (verbose : Bool) : Request → Job m Nat
  | .run circuit output o =>
    if o.ticks < 0 then fail "--ticks must not be negative" else run fs verbose circuit output o
  | .validate circuit => validate fs circuit
  | .batch circuits directory failFast o =>
    if o.ticks < 0 then fail "--ticks must not be negative"
    else batch fs verbose circuits directory failFast o

/-- Carries out what the words of a command line ask for. -/
def execute (fs : FileSystem m) (words : List String) : Job m Nat :=
  match Invocation.ofWords words with
  | .ok i => perform fs i.verbose i.request
  | .error (.help text) => do
    print text
    return 0
  | .error (.misuse program usage complaint) => do
    complain (usage ++ program ++ ": error: " ++ complaint ++ "\n")
    return 2

/-- The exit code of a command line, or the failure that ended it, and what was printed. -/
def start (fs : FileSystem m) (words : List String) : m (Except Failure Nat × Console) :=
  (execute fs words).run.run {}

end Program

end TickCircuit.CommandLine

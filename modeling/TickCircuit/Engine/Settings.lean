import TickCircuit.Component.History
import TickCircuit.Log

/-!
# Engine Settings

What holds for a whole run: the length of a tick, the limit of the histories, the seed of the random
components and the range of the broadcast channels. Settings are read from documents; a setting that
is not acceptable keeps its default, and a warning says so.
-/

namespace TickCircuit

structure EngineSettings where
  /-- The length of a tick in simulated milliseconds. -/
  tickInterval : Number
  historyLimit : Nat
  seed : Option Nat
  channelMin : Int
  channelMax : Int

namespace EngineSettings

/-- The settings of a run for which nothing else was said. -/
def standard : EngineSettings := ⟨.real 100.0, History.standardLimit, none, 1, 100⟩

/-! ## §1 Writing -/

/-- A seed as a value. -/
def seedValue : Option Nat → Value
  | some n => .int n
  | none => .null

/-- The settings as named fields. -/
def fields (s : EngineSettings) : List (String × Value) := [
  ("tick_interval_ms", .ofNumber s.tickInterval),
  ("history_limit", .int s.historyLimit),
  ("random_seed", seedValue s.seed),
  ("broadcast_channel_min", .int s.channelMin),
  ("broadcast_channel_max", .int s.channelMax)]

/-- The document of the settings. -/
def toDocument (s : EngineSettings) : Value := .object (Record.ofFields s.fields)

/-! ## §2 Acceptable Values -/

/-- A positive number, infinity excluded. -/
def interval? (v : Value) : Option Number :=
  match v with
  | .int n => if 0 < n then some (.int n) else none
  | .real x => if 0.0 < x && x.isFinite then some (.real x) else none
  | _ => none

/-- A whole number from one on. -/
def limit? : Value → Option Nat
  | .int n => if 1 ≤ n then some n.toNat else none
  | _ => none

/-- A whole number from zero on, or nothing. -/
def seed? : Value → Option (Option Nat)
  | .null => some none
  | .int n => if 0 ≤ n then some (some n.toNat) else none
  | _ => none

/-- A range that is not empty. -/
def channels? : Value → Value → Option (Int × Int)
  | .int low, .int high => if low ≤ high then some (low, high) else none
  | _, _ => none

/-! ## §3 Reading -/

/-- The warning that a setting keeps its default. -/
def warning (name : String) (given : Value) (reason : String) (default : Value) : Log.Entry :=
  ⟨.warning, .settings, "Invalid " ++ name ++ " " ++ given.literal ++ " (" ++ reason ++
    "); using " ++ default.literal, none⟩

/-- A setting that was accepted, or else its default with a warning. -/
def settle {α : Type} (accepted : Option α) (default : α) (warnings : List Log.Entry) :
    α × List Log.Entry :=
  match accepted with
  | some a => (a, [])
  | none => (default, warnings)

/-- The settings of a table of fields, with the warnings. Fields of other names are ignored. -/
def ofRecord (r : Record) : EngineSettings × List Log.Entry :=
  let d := standard
  let given (name : String) (default : Value) : Value := (Table.get? r name).getD default
  let interval := given "tick_interval_ms" (.ofNumber d.tickInterval)
  let limit := given "history_limit" (.int d.historyLimit)
  let seed := given "random_seed" (seedValue d.seed)
  let low := given "broadcast_channel_min" (.int d.channelMin)
  let high := given "broadcast_channel_max" (.int d.channelMax)
  let (tickInterval, log₁) := settle (interval? interval) d.tickInterval
    [warning "tick_interval_ms" interval "must be a positive number" (.ofNumber d.tickInterval)]
  let (historyLimit, log₂) := settle (limit? limit) d.historyLimit
    [warning "history_limit" limit "must be an integer >= 1" (.int d.historyLimit)]
  let (seed, log₃) := settle (seed? seed) d.seed
    [warning "random_seed" seed "must be a non-negative integer" (seedValue d.seed)]
  let ((channelMin, channelMax), log₄) := settle (channels? low high) (d.channelMin, d.channelMax)
    [warning "broadcast_channel_min" low "channel range is invalid" (.int d.channelMin),
      warning "broadcast_channel_max" high "channel range is invalid" (.int d.channelMax)]
  (⟨tickInterval, historyLimit, seed, channelMin, channelMax⟩, log₁ ++ log₂ ++ log₃ ++ log₄)

/-- The settings of a document, with the warnings. -/
def ofDocument (v : Value) : Except Fault (EngineSettings × List Log.Entry) :=
  match v with
  | .object es => .ok (ofRecord es)
  | v => .error (.noMember v.kindName "items")

end EngineSettings

end TickCircuit

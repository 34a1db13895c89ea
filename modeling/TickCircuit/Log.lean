/-!
# Log

A log entry is a text from one part of the program. Entries that report a fault keep its wording
apart from the text, so that the text alone is stable.
-/

namespace TickCircuit.Log

inductive Level where
  | info
  | warning
  | error
  deriving Repr, DecidableEq

/-- The word for a level. -/
def Level.name : Level → String
  | info => "INFO"
  | warning => "WARNING"
  | error => "ERROR"

/-- The part of the program that an entry comes from. -/
inductive Source where
  | commandLine
  | editing
  | running
  | engine
  | settings
  deriving Repr, DecidableEq

/-- The name of a source as it is printed. -/
def Source.name : Source → String
  | commandLine => "cli"
  | editing => "controllers.circuit_controller"
  | running => "controllers.simulation_controller"
  | engine => "simulation.scheduler"
  | settings => "simulation.settings_store"

structure Entry where
  level : Level
  source : Source
  text : String
  /-- The wording of a reported fault. -/
  detail : Option String := none
  deriving Repr, DecidableEq

/-- The text of an entry with the wording of its fault. -/
def Entry.full (e : Entry) : String :=
  match e.detail with
  | some d => e.text ++ " " ++ d
  | none => e.text

end TickCircuit.Log

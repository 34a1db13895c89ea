import TickCircuit.Document.Printer
import TickCircuit.Document.Reader
import TickCircuit.Engine.Settings

/-!
# Settings Files

Engine settings kept in a file. A file that is not there stands for the standard settings; so does
one that cannot be read, with a warning. Every update writes the whole file.
-/

namespace TickCircuit.SettingsFile

/-- The settings in a file with the given content, if it is there, and what is to be said about it.
A number that is too long to be read is a fault. -/
def load (path : String) (content : Option String) :
    Except Fault (EngineSettings × List Log.Entry) :=
  match content with
  | none => .ok (.standard, [])
  | some bytes =>
    let text := String.ofList (Document.unifyLineEnds bytes.toList)
    match Document.parse text with
    | .error m =>
      if m.cause == .tooManyDigits then .error .tooManyDigits
      else .ok (.standard, [⟨.warning, .settings,
        "Failed to load simulation settings from " ++ path ++ ":", some (m.message text)⟩])
    | .ok (.object es) => .ok (EngineSettings.ofRecord es)
    | .ok _ => .ok (.standard, [⟨.warning, .settings,
        "Ignoring simulation settings in " ++ path ++ ": not a JSON object", none⟩])

/-- The settings with some of them changed, and the warnings. -/
def update (s : EngineSettings) (changes : Record) : EngineSettings × List Log.Entry :=
  EngineSettings.ofRecord (Table.merge (Record.ofFields s.fields) changes)

/-- What is written to the file. -/
def content (s : EngineSettings) : String := Document.print s.toDocument

end TickCircuit.SettingsFile

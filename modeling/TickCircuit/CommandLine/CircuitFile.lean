import TickCircuit.Circuit.Validation
import TickCircuit.Document.Reader

/-!
# Circuit Files

A circuit is kept in a file as a document. Loading reads the document, validates it and builds the
circuit; a file that does not hold a circuit is rejected for a reason that can be told.
-/

namespace TickCircuit.CommandLine

/-- Why no circuit could be loaded from a file. -/
inductive Rejection where
  | notFound (path : String)
  | notADocument (path misfit : String)
  /-- The document breaks a rule for circuits. -/
  | notACircuit (defect : String)
  deriving Repr, DecidableEq

/-- The wording of a rejection. -/
def Rejection.message : Rejection → String
  | notFound path => "file not found: " ++ path
  | notADocument path misfit => "invalid JSON in " ++ path ++ ": " ++ misfit
  | notACircuit defect => "invalid circuit file: " ++ defect

namespace CircuitFile

/-- The circuit in a document. A fault of another kind than a broken rule ends the program. -/
def ofDocument (d : Value) : Except Fault (Except Rejection Circuit) :=
  match Validation.document d with
  | .ok () => (Circuit.ofDocument d).map .ok
  | .error e => if e.kind == .value then .ok (.error (.notACircuit e.message)) else .error e

/-- The circuit in a file with the given content. -/
def load (path content : String) : Except Fault (Except Rejection Circuit) :=
  let text := String.ofList (Document.unifyLineEnds content.toList)
  match Document.parse text with
  | .ok d => ofDocument d
  | .error m =>
    if m.cause == .tooManyDigits then .error .tooManyDigits
    else .ok (.error (.notADocument path (m.message text)))

end CircuitFile

end TickCircuit.CommandLine

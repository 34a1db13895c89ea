import TickCircuit.Pattern.Search
import TickCircuit.Signal.Reading

/-!
# Pattern Matching

A component that searches its input with a pattern and emits a text for a match and another one for
no match, or the text of the first named group. A text that is no pattern matches nothing.
-/

namespace TickCircuit.Matching

/-- The settings of the component. -/
structure Rule where
  expression : Value
  /-- What is emitted on a match. -/
  output : Value
  /-- What is emitted without one. -/
  otherwise : Value
  useGroup : Bool
  /-- Emit the text of a group even if it is empty. -/
  emptyGroup : Bool
  /-- Without an input, emit again what was emitted last. -/
  continuous : Bool
  maxLength : Value

/-- The text of the pattern. -/
def Rule.expressionText (r : Rule) : String :=
  if r.expression.truthy then r.expression.display else ""

/-- The index of the first group that has a name. -/
def firstNamed? (p : Pattern) : Option Nat :=
  (p.names.map Prod.snd).min?

/-- What a match emits. -/
def Rule.onMatch (r : Rule) (p : Pattern) (m : Pattern.Match) (text : String) : Value :=
  if !r.useGroup then r.output
  else match (firstNamed? p).bind (m.groupText text) with
    | some s => if s == "" && !r.emptyGroup then r.otherwise else .text s
    | none => r.otherwise

/-- What a signal emits. A repeat count that is too large is a fault. -/
def Rule.evaluate (r : Rule) (signal : Value) : Except Fault Value :=
  let expression := r.expressionText
  if Blank.trim expression == "" then .ok r.output
  else
    match Pattern.compile expression with
    | .error e => if e.kind == .pattern then .ok r.otherwise else .error e
    | .ok p =>
      let text := signal.signalText
      match p.search text with
      | some m => .ok (r.onMatch p m text)
      | none => .ok r.otherwise

/-- What is emitted for an input, given what was emitted last. -/
def Rule.emit (r : Rule) (last signal : Value) : Except Fault Value := do
  let result ←
    if signal.isPresent then r.evaluate signal
    else if r.continuous && last.isPresent then pure last
    else pure r.otherwise
  return .text (result.cut r.maxLength)

end TickCircuit.Matching

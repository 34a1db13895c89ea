import TickCircuit.Value.Coercion
import TickCircuit.Value.Equality

/-!
# Wires

A wire runs from an output pin of one component to an input pin of another, or of the same one.
-/

namespace TickCircuit

structure Wire where
  id : Value
  source : Value
  sourcePin : Value
  target : Value
  targetPin : Value

namespace Wire

/-- The wire starts or ends at the component. -/
def touches (w : Wire) (component : Value) : Bool :=
  w.source.same component || w.target.same component

/-- The wire ends at the input pin. -/
def feeds (w : Wire) (component pin : Value) : Bool :=
  w.target.same component && w.targetPin.same pin

/-- The wire starts at the output pin. -/
def leaves (w : Wire) (component pin : Value) : Bool :=
  w.source.same component && w.sourcePin.same pin

/-- How a wire is shown in messages. -/
def label (w : Wire) : String :=
  "WireData(" ++ w.id.display ++ ": " ++ w.source.display ++ "." ++ w.sourcePin.display ++ " -> " ++
    w.target.display ++ "." ++ w.targetPin.display ++ ")"

/-- The document of a wire. -/
def toDocument (w : Wire) : Value :=
  .object (Record.ofFields [("id", w.id), ("from_id", w.source), ("from_pin", w.sourcePin),
    ("to_id", w.target), ("to_pin", w.targetPin)])

/-- The wire of a document. -/
def ofDocument (d : Value) : Except Fault Wire := do
  return ⟨← d.field "id", ← d.field "from_id", ← d.field "from_pin", ← d.field "to_id",
    ← d.field "to_pin"⟩

end Wire

end TickCircuit

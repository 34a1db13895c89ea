import TickCircuit.Fault
import TickCircuit.Signal.Reading
import TickCircuit.Value.Equality

/-!
# Signals Compared

Two comparisons of signals. The loose one compares readings as numbers within a tolerance and falls
back to the texts; the strict one equates numbers with numbers and texts with texts only.
-/

namespace TickCircuit.Value

/-- Equal, or at most `tolerance` apart. Without a tolerance only equality counts. -/
def within (tolerance : Option Number) (a b : Number) : Bool :=
  a.eq b || (match tolerance with
    | some t => (a.sub b).abs.le t
    | none => false)

/-- Equality of signals as numbers within a tolerance when both read as numbers, otherwise equality
of their texts. -/
def looseEquals (a b : Value) (tolerance : Option Number) : Bool :=
  match a.reading?, b.reading? with
  | some x, some y => within tolerance x y
  | _, _ => a.signalText == b.signalText

/-- Equality of signals of one kind: both absent, both numbers, or both texts. -/
def strictEquals : Value → Value → Bool
  | absent, absent => true
  | text s, text t => s == t
  | int a, int b => a == b
  | int a, real y => Number.eq (.int a) (.real y)
  | real x, int b => Number.eq (.real x) (.int b)
  | real x, real y => x == y
  | _, _ => false

/-- A value held between the bounds that two settings read as. A bound can be met by a number
only. -/
def clamp (v lower upper : Value) : Except Fault Value := do
  let v ← match upper.reading? with
    | some u => match v.number? with
      | some x => .ok (if u.lt x then ofNumber u else v)
      | none => .error .wrongKind
    | none => .ok v
  match lower.reading? with
  | some l => match v.number? with
    | some x => .ok (if x.lt l then ofNumber l else v)
    | none => .error .wrongKind
  | none => .ok v

/-- The sign of a value that is a number. -/
def sign (v : Value) : Except Fault Int :=
  match v.number? with
  | some x => .ok x.sign
  | none => .error .wrongKind

end TickCircuit.Value

import TickCircuit.Number.Notation
import TickCircuit.Number.Reading
import TickCircuit.Value.Rendering

/-!
# Signals Read as Numbers and as Text

No reading fails with a fault: what cannot be read is `none`, and each component chooses its own
fallback. A NaN is not a number here, and a whole number too large for a `Float` reads as an
infinity. As text, fractions without a fractional part lose their point.
-/

namespace TickCircuit.Value

/-! ## §1 As Numbers -/

/-- A number unless it is a NaN. -/
def unlessNaN (x : Float) : Option Number := if x.isNaN then none else some (.real x)

/-- The number that a signal reads as. -/
def reading? : Value → Option Number
  | flag b => some (.int (if b then 1 else 0))
  | int n =>
    if Binary.holdsInt n then some (.int n)
    else some (.real (if 0 < n then 1.0 / 0.0 else -1.0 / 0.0))
  | real x => unlessNaN x
  | text s => (Reading.float? (Blank.trim s)).bind unlessNaN
  | _ => none

/-- The whole part of a number, if it is finite. -/
def wholePart? : Number → Option Int
  | .int n => some n
  | .real x => Binary.truncate? x

/-- The whole number that a signal reads as, its fraction dropped. -/
def wholeReading? (v : Value) : Option Int := v.reading?.bind wholePart?

/-- The number that a signal reads as, or zero. -/
def numberOrZero (v : Value) : Number := v.reading?.getD (.int 0)

/-- Present and not zero. Text that is no number is active. -/
def isActive (v : Value) : Bool :=
  v.isPresent && (match v.reading? with
    | some n => !n.isZero
    | none => true)

/-- A number, flags left out, that is finite and within the range of `Float`. -/
def isFiniteNumber : Value → Bool
  | int n => Binary.holdsInt n
  | real x => x.isFinite
  | _ => false

/-! ## §2 As Text -/

/-- The text of a signal. What is not present is the empty text; flags are `1` and `0`. -/
def signalText (v : Value) : String :=
  if !v.isPresent then ""
  else match v with
    | flag b => if b then "1" else "0"
    | real x =>
      match Binary.isWhole x, Binary.truncate? x with
      | true, some n => toString n
      | _, _ => v.display
    | _ => v.display

/-- The first `limit` characters of a text, if the limit is positive; otherwise all of it. -/
def cutText (s : String) (limit : Option Int) : String :=
  match limit with
  | some n => if 0 < n then String.ofList (s.toList.take n.toNat) else s
  | none => s

/-- The text of a signal, cut to the length that a setting asks for. -/
def cut (v maxLength : Value) : String := cutText v.signalText maxLength.wholeReading?

end TickCircuit.Value

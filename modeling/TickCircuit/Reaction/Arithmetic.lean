import TickCircuit.Component.History
import TickCircuit.Signal.Comparison

/-!
# Arithmetic Components

Two operands are combined; an operand without a signal counts as zero, and if one is no number the
first signal is emitted as it is. The result may be averaged over a time window and is then held
between two bounds.
-/

namespace TickCircuit.Arithmetic

/-- The number of an operand; none for a signal that is no number. -/
def operand (v : Value) : Option Number := if v.isPresent then v.reading? else some (.int 0)

/-- A number in the range of finite `Float`s, or zero. -/
def finiteOrZero (n : Number) : Number := if n.isFinite then n else .int 0

/-! ## §1 Operations -/

/-- The product, rounded to some decimal places if there are any. -/
def multiply (places : Option Int) (a b : Number) : Number :=
  let product := a.mul b
  match places with
  | some p => if 0 < p && product.isFinite then product.roundTo p.toNat else product
  | none => product

/-- The quotient; zero when the divisor is zero. -/
def divide (a b : Number) : Number := if b.isZero then .int 0 else a.div b

/-! ## §2 Windows and Bounds -/

/-- The length of a time window in seconds, if there is one. -/
def window? (v : Value) : Option Number :=
  v.reading?.bind fun n => if (Number.int 0).lt n then some n else none

/-- The numbers that two settings bound a result by. -/
structure Bounds where
  lower : Value
  upper : Value

def Bounds.hold (b : Bounds) (n : Number) : Number := n.clamp b.lower.reading? b.upper.reading?

/-- The result of an operation after the time window and the bounds. -/
def finish (history : History) (now : Float) (window : Value) (bounds : Bounds) (result : Number) :
    Except Fault Number × History :=
  let result := finiteOrZero result
  match window? window with
  | some seconds =>
    let (mean, history) := history.windowedMean (.ofNumber result) (.real now) seconds
    (mean.map fun m => bounds.hold (.real m), history)
  | none => (.ok (bounds.hold result), history)

/-! ## §3 Concatenation -/

/-- Two signals as one text, if both are there. -/
def concatenation (separator maxLength a b : Value) : Option Value :=
  if a.isPresent && b.isPresent then
    let between := if separator.truthy then separator.display else ""
    some (.text (Value.cutText (a.signalText ++ between ++ b.signalText) maxLength.wholeReading?))
  else none

end TickCircuit.Arithmetic

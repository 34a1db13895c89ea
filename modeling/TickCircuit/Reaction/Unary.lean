import TickCircuit.Signal.Reading

/-!
# Numeric Components with One Input

Each function takes the signal on the input pin and gives what is emitted, if anything. What happens
without a signal, and with a signal that is no number, differs from component to component and is
part of what the component is for.
-/

namespace TickCircuit.Unary

/-- The magnitude. What is no number passes through. -/
def abs (v : Value) : Option Value :=
  if v.isPresent then
    match v.reading? with
    | some n => some (.ofNumber n.abs)
    | none => some v
  else none

/-! ## §1 Rounding -/

/-- The least whole number that is not below a finite number. -/
def ceilOf : Number → Int
  | .int n => n
  | .real x => (Binary.ceil? x).getD 0

/-- The greatest whole number that is not above a finite number. -/
def floorOf : Number → Int
  | .int n => n
  | .real x => (Binary.floor? x).getD 0

/-- The nearest whole number to a finite number, a half going up: the floor of the sum with one half,
formed as a `Float`. -/
def halfUp (n : Number) : Int := floorOf (n.add (.real 0.5))

/-- A rounding. A signal that is no finite number gives no signal. -/
def rounded (rule : Number → Int) (v : Value) : Option Value :=
  if v.isPresent then
    match v.reading? with
    | some n => some (if n.isFinite then .int (rule n) else .absent)
    | none => some .absent
  else none

def ceil (v : Value) : Option Value := rounded ceilOf v

def floor (v : Value) : Option Value := rounded floorOf v

/-- Rounding half up. Whatever cannot be rounded gives zero. -/
def round (v : Value) : Option Value :=
  match v.reading? with
  | some n => some (.int (if n.isFinite then halfUp n else 0))
  | none => some (.int 0)

/-! ## §2 Roots and Factorials -/

/-- The square root; zero for what has none. -/
def squareRoot (v : Value) : Option Value :=
  match v.reading? with
  | some n => some (if n.lt (.int 0) then .int 0 else .real n.toFloat.sqrt)
  | none => some (.int 0)

/-- The greatest number whose factorial is computed. -/
def maxFactorial : Nat := 20

def factorialOf : Nat → Nat
  | 0 => 1
  | n + 1 => (n + 1) * factorialOf n

/-- The factorial of the whole part; zero outside the range. -/
def factorial (v : Value) : Option Value :=
  if v.isPresent then
    match v.wholeReading? with
    | some n =>
      if 0 ≤ n && n ≤ maxFactorial then some (.int (factorialOf n.toNat)) else some (.int 0)
    | none => some (.int 0)
  else none

/-! ## §3 Remainders and Powers -/

/-- The whole part of a finite `Float`. -/
def wholeOf (x : Float) : Int := (Binary.truncate? x).getD 0

/-- The remainder with the sign of the dividend. It is a whole number if both operands are. -/
def modulo (v modulus : Value) : Option Value :=
  if v.isPresent then
    let n := v.numberOrZero
    let m := modulus.numberOrZero
    if m.isZero || !n.isFinite then some (.int 0)
    else
      let rest := Binary.remainder n.toFloat m.toFloat
      some (if n.isInt && m.isInt then .int (wholeOf rest) else .real rest)
  else none

/-- The power, formed as a `Float`; zero if it is not finite. It is a whole number if both operands
are and the exponent is not negative. -/
def power (v exponent : Value) : Option Value :=
  if v.isPresent then
    let base := v.numberOrZero
    let e := exponent.numberOrZero
    let result := base.toFloat.pow e.toFloat
    if !result.isFinite then some (.int 0)
    else if Binary.isWhole result && base.isInt && e.isInt && (Number.int 0).le e then
      some (.int (wholeOf result))
    else some (.real result)
  else none

/-! ## §4 Negation -/

/-- One for zero and for what is no number, zero for every other number. -/
def negation (v : Value) : Value := .int (if v.numberOrZero.isZero then 1 else 0)

end TickCircuit.Unary

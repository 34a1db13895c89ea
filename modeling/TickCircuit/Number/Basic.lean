import TickCircuit.Number.Binary

/-!
# Numbers

A number is a whole number of any size or a `Float`. Sums, differences and products of whole
numbers are exact; as soon as a `Float` takes part the other operand is rounded to one first.
Comparisons never round.
-/

namespace TickCircuit

/-- A whole number of any size, or a `Float`. -/
inductive Number where
  | int (value : Int)
  | real (value : Float)

namespace Number

instance : Inhabited Number := ⟨.int 0⟩

/-- The nearest `Float`. -/
def toFloat : Number → Float
  | int n => Binary.ofInt n
  | real x => x

/-- Neither infinite nor a NaN. A whole number too large for a `Float` does not count as finite. -/
def isFinite : Number → Bool
  | int n => Binary.holdsInt n
  | real x => x.isFinite

def isNaN : Number → Bool
  | int _ => false
  | real x => x.isNaN

def isInt : Number → Bool
  | int _ => true
  | real _ => false

/-! ## §1 Comparison -/

/-- How two `Float`s compare; none when one of them is a NaN. -/
def compareFloats? (x y : Float) : Option Ordering :=
  if x < y then some .lt
  else if x == y then some .eq
  else if y < x then some .gt
  else none

/-- How two numbers compare, exactly; none when one of them is a NaN. -/
def compare? : Number → Number → Option Ordering
  | int a, int b => some (compare a b)
  | real x, int b => Binary.compareInt? x b
  | int a, real y => (Binary.compareInt? y a).map Ordering.swap
  | real x, real y => compareFloats? x y

def eq (a b : Number) : Bool := compare? a b == some .eq

def lt (a b : Number) : Bool := compare? a b == some .lt

def le (a b : Number) : Bool := compare? a b == some .lt || compare? a b == some .eq

/-- Equal to zero, of either sign. -/
def isZero (a : Number) : Bool := eq a (int 0)

/-- The sign as a whole number: `1`, `-1`, or `0` for zeros and NaNs. -/
def sign (a : Number) : Int :=
  if lt (int 0) a then 1 else if lt a (int 0) then -1 else 0

/-- `a` held to at most `upper`, then to at least `lower`, where these are given. -/
def clamp (a : Number) (lower upper : Option Number) : Number :=
  let a := match upper with
    | some u => if lt u a then u else a
    | none => a
  match lower with
  | some l => if lt a l then l else a
  | none => a

/-! ## §2 Arithmetic -/

def add : Number → Number → Number
  | int a, int b => int (a + b)
  | a, b => real (a.toFloat + b.toFloat)

def sub : Number → Number → Number
  | int a, int b => int (a - b)
  | a, b => real (a.toFloat - b.toFloat)

def mul : Number → Number → Number
  | int a, int b => int (a * b)
  | a, b => real (a.toFloat * b.toFloat)

/-- The quotient, for a divisor other than zero. A quotient of whole numbers is rounded once. -/
def div : Number → Number → Number
  | int a, int b => real (Binary.ofRatio ((a < 0) != (b < 0)) a.natAbs b.natAbs)
  | a, b => real (a.toFloat / b.toFloat)

def abs : Number → Number
  | int a => int a.natAbs
  | real x => real x.abs

/-! ## §3 Decimal Places -/

/-- `num / den` rounded to a whole number, a half going to the even neighbour. -/
def roundQuotient (num den : Nat) : Nat :=
  let below := num / den
  let rest := num % den
  if 2 * rest > den || (2 * rest == den && below % 2 == 1) then below + 1 else below

/-- More decimal places than any `Float` has digits behind its point that rounding could touch. -/
def maxPlaces : Nat := 323

open Float.Model in
/-- `x` rounded to `places` decimal places: the exact value of `x` is rounded, a half going to the
even neighbour, and the result is the `Float` nearest to that decimal. -/
def roundFloat (x : Float) (places : Nat) : Float :=
  if places > maxPlaces then x
  else match x.toModel.unpack with
    | .finite s m e _ =>
      if 0 ≤ e then x
      else
        let scaled := roundQuotient (m * Nat.pow 10 places) (Nat.pow 2 (-e).toNat)
        Binary.ofRatio (s.apply 1 < 0) scaled (Nat.pow 10 places)
    | _ => x

/-- Rounding to decimal places leaves whole numbers alone. -/
def roundTo (places : Nat) : Number → Number
  | int a => int a
  | real x => real (roundFloat x places)

end Number

end TickCircuit

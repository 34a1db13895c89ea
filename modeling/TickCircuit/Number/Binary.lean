/-!
# Binary Fractions, Exactly

A `Float` that is neither infinite nor a NaN is `± m · 2^e` for a natural `m`. This module reads
that form and works on it in whole numbers, so that nothing here rounds unless it says so:

- integer parts (`floor?`, `ceil?`, `truncate?`) and the test `isWhole`;
- comparison with a whole number of any size (`compareInt?`);
- the two remainders of a division (`remainder`, `modulo`);
- the nearest `Float` to a whole number (`ofInt`) and to a quotient (`ofRatio`).
-/

namespace TickCircuit.Binary

open Float.Model

/-! ## §1 Whole Parts -/

/-- The floor of `n · 2^e`. -/
def floorScaled (n e : Int) : Int :=
  if 0 ≤ e then n * Nat.pow 2 e.toNat else n / Nat.pow 2 (-e).toNat

/-- The largest whole number that is not above `x`; none for an infinity or a NaN. -/
def floor? (x : Float) : Option Int :=
  match x.toModel.unpack with
  | .finite s m e _ => some (floorScaled (s.apply m) e)
  | .zero _ => some 0
  | _ => none

/-- The least whole number that is not below `x`; none for an infinity or a NaN. -/
def ceil? (x : Float) : Option Int :=
  match x.toModel.unpack with
  | .finite s m e _ => some (-floorScaled (-(s.apply m)) e)
  | .zero _ => some 0
  | _ => none

/-- The whole part of `x`, its fraction dropped; none for an infinity or a NaN. -/
def truncate? (x : Float) : Option Int :=
  match x.toModel.unpack with
  | .finite s m e _ => some (s.apply (floorScaled m e))
  | .zero _ => some 0
  | _ => none

/-- `x` is finite and has no fraction. -/
def isWhole (x : Float) : Bool :=
  match x.toModel.unpack with
  | .finite _ m e _ => 0 ≤ e || m % Nat.pow 2 (-e).toNat == 0
  | .zero _ => true
  | _ => false

/-- The nearest whole number, a half going to the even neighbour; none for an infinity or a NaN. -/
def roundHalfEven? (x : Float) : Option Int :=
  match x.toModel.unpack with
  | .finite s m e _ =>
    if 0 ≤ e then some (s.apply (m * Nat.pow 2 e.toNat))
    else
      let unit : Nat := Nat.pow 2 (-e).toNat
      let below := m / unit
      let rest := m % unit
      let up := 2 * rest > unit || (2 * rest == unit && below % 2 == 1)
      some (s.apply (if up then below + 1 else below))
  | .zero _ => some 0
  | _ => none

/-! ## §2 Comparison with Whole Numbers -/

/-- How `x` compares with the whole number `n`, exactly; none for a NaN. -/
def compareInt? (x : Float) (n : Int) : Option Ordering :=
  match x.toModel.unpack with
  | .notANumber => none
  | .infinity .positive => some .gt
  | .infinity .negative => some .lt
  | .zero _ => some (compare 0 n)
  | .finite s m e _ =>
    if 0 ≤ e then some (compare (s.apply m * Nat.pow 2 e.toNat) n)
    else some (compare (s.apply m) (n * Nat.pow 2 (-e).toNat))

/-! ## §3 The Nearest `Float` -/

/-- A zero of the given sign. -/
def signedZero (negative : Bool) : Float := if negative then -0.0 else 0.0

/-- The `Float` nearest to `n`, ties to even; an infinity beyond the range of finite ones. -/
def ofInt (n : Int) : Float := .ofModel (.ofInt n)

/-- `n` is within the range of finite `Float`s. -/
def holdsInt (n : Int) : Bool := (ofInt n).isFinite

/-- The `Float` nearest to `± num / den`, ties to even, rounding once. A zero denominator gives a
zero. -/
def ofRatio (negative : Bool) (num den : Nat) : Float :=
  if hn : num = 0 then signedZero negative
  else if hd : den = 0 then signedZero negative
  else
    .ofModel (.pack (UnpackedFloat.div .binary64
      (.finite (if negative then .negative else .positive) num 0 (Nat.pos_of_ne_zero hn))
      (.finite .positive den 0 (Nat.pos_of_ne_zero hd))))

/-! ## §4 Remainders -/

/-- What is left of `x` after taking away whole multiples of `y`: exact, smaller than `y` in
magnitude, with the sign of `x`. It is a NaN when `x` is infinite or `y` is zero. -/
def remainder (x y : Float) : Float :=
  match x.toModel.unpack, y.toModel.unpack with
  | .finite s m e _, .finite _ m' e' _ =>
    let low := min e e'
    let rest := (m * Nat.pow 2 (e - low).toNat) % (m' * Nat.pow 2 (e' - low).toNat)
    let negative := s.apply 1 < 0
    if 0 ≤ low then ofRatio negative (rest * Nat.pow 2 low.toNat) 1
    else ofRatio negative rest (Nat.pow 2 (-low).toNat)
  | .zero _, .finite .. => x
  | .zero _, .infinity _ => x
  | .finite .., .infinity _ => x
  | _, _ => 0.0 / 0.0

/-- The remainder with the sign of the divisor `y`. -/
def modulo (x y : Float) : Float :=
  let rest := remainder x y
  if rest == 0.0 then signedZero (y < 0.0)
  else if (y < 0.0) != (rest < 0.0) then rest + y
  else rest

end TickCircuit.Binary

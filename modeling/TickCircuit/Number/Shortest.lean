import TickCircuit.Number.Binary

/-!
# The Fewest Digits That Read Back

A finite `Float` is the nearest one to every number of a small interval around it. The decimal
written for it is the one with the fewest digits inside that interval and, of those with equally
many, the nearest to the value; a tie goes to the even last digit.

Digits are selected in whole numbers: the value is `num / den`, and its rounding interval reaches
from `low / den` to `high / den`, ends included exactly when the significand is even.
-/

namespace TickCircuit

/-- The number `digits · 10^exponent`. -/
structure Decimal where
  digits : Nat
  exponent : Int
  deriving Repr, DecidableEq

namespace Shortest

/-- A positive fraction together with the interval of numbers that round to it, all over one
denominator. -/
structure Window where
  num : Nat
  low : Nat
  high : Nat
  den : Nat
  closed : Bool

/-- The window of `m · 2^e`. Below a power of two the neighbours lie twice as close, except at the
foot of the range, where the spacing no longer shrinks. -/
def Window.ofBinary (m : Nat) (e : Int) : Window :=
  let scale : Nat := if 0 ≤ e then Nat.pow 2 e.toNat else 1
  let down : Nat := if m == Nat.pow 2 52 && e > -1074 then 1 else 2
  { num := 4 * m * scale
    low := (4 * m - down) * scale
    high := (4 * m + 2) * scale
    den := 4 * (if 0 ≤ e then 1 else Nat.pow 2 (-e).toNat)
    closed := m % 2 == 0 }

/-- `10^k` as a quotient of two whole numbers. -/
def powerOfTen (k : Int) : Nat × Nat :=
  if 0 ≤ k then (Nat.pow 10 k.toNat, 1) else (1, Nat.pow 10 (-k).toNat)

/-- `10^k ≤ num / den`. -/
def reaches (num den : Nat) (k : Int) : Bool :=
  let (p, q) := powerOfTen k
  p * den ≤ num * q

/-- The exponent of the leading decimal digit of `num / den`, found among the candidates that
the binary logarithms leave. -/
def leadingExponent (num den : Nat) : Int :=
  let guess : Int := (((num.log2 : Int) - (den.log2 : Int)) * 30103) / 100000
  if reaches num den (guess + 1) then guess + 1
  else if reaches num den guess then guess
  else if reaches num den (guess - 1) then guess - 1
  else guess - 2

/-- The multiple of `10^k` that lies in the window nearest to its value, if there is one. -/
def onGrid (w : Window) (k : Int) : Option Nat :=
  let (p, q) := powerOfTen k
  let unit := p * w.den
  let below := (w.num * q) / unit
  let inside (d : Nat) : Bool :=
    let at10 := d * unit
    if w.closed then w.low * q ≤ at10 && at10 ≤ w.high * q
    else w.low * q < at10 && at10 < w.high * q
  let rest := (w.num * q) % unit
  match inside below && below != 0, inside (below + 1) with
  | true, true =>
    if 2 * rest < unit || (2 * rest == unit && below % 2 == 0) then some below
    else some (below + 1)
  | true, false => some below
  | false, true => some (below + 1)
  | false, false => none

/-- `digits · 10^exponent` without trailing zeros among its digits; `fuel` bounds their number. -/
def trim : (fuel : Nat) → (digits : Nat) → (exponent : Int) → Decimal
  | 0, d, k => ⟨d, k⟩
  | fuel + 1, d, k => if d != 0 && d % 10 == 0 then trim fuel (d / 10) (k + 1) else ⟨d, k⟩

/-- The first grid with a point in the window, from coarse to fine. Seventeen digits always
suffice. -/
def search (w : Window) (top : Int) : (fuel : Nat) → Decimal
  | 0 => ⟨0, 0⟩
  | fuel + 1 =>
    let k := top - (17 - (fuel + 1 : Nat) : Int)
    match onGrid w k with
    | some d => trim 20 d k
    | none => search w top fuel

/-- The decimal written for `m · 2^e`. -/
def ofBinary (m : Nat) (e : Int) : Decimal :=
  let w := Window.ofBinary m e
  search w (leadingExponent w.num w.den) 17

end Shortest

end TickCircuit

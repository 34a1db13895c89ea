import TickCircuit.Random.Seeding

/-!
# A Random Number Generator

A linear congruential generator on 128 bits whose output is the exclusive or of the two halves of
its state, rotated by the top six bits. Draws from a range are unbiased: the product of a draw and
the size of the range is taken, and draws whose product falls into the uneven rest are repeated.
-/

namespace TickCircuit.Random

/-- The state of a generator. -/
structure Generator where
  state : BitVec 128
  increment : BitVec 128
  /-- The upper half of the last 64 bits, when only the lower half has been used. -/
  spare : Option Nat
  deriving Repr, DecidableEq

namespace Generator

def multiplier : BitVec 128 := 0x2360ED051FC65DA44385DF649FCCF645#128

def advance (g : Generator) : Generator := { g with state := g.state * multiplier + g.increment }

/-- The generator that a seed starts. -/
def ofSeed (seed : List Nat) : Generator :=
  match seedWords seed with
  | [a, b, c, d] =>
    let first : BitVec 128 := BitVec.ofNat 128 (a * Nat.pow 2 64 + b)
    let increment : BitVec 128 := BitVec.ofNat 128 (2 * (c * Nat.pow 2 64 + d) + 1)
    let g := advance ⟨0#128, increment, none⟩
    advance { g with state := g.state + first }
  | _ => ⟨0#128, 1#128, none⟩

/-- The next 64 bits. -/
def next64 (g : Generator) : Nat × Generator :=
  let g := g.advance
  let mixed : BitVec 64 := (g.state >>> 64).setWidth 64 ^^^ g.state.setWidth 64
  ((mixed.rotateRight (g.state >>> 122).toNat).toNat, g)

/-- The next 32 bits: the two halves of 64 bits, the lower one first. -/
def next32 (g : Generator) : Nat × Generator :=
  match g.spare with
  | some n => (n, { g with spare := none })
  | none =>
    let (n, g) := g.next64
    (n % wordRange, { g with spare := some (n / wordRange) })

/-! ## Ranges -/

/-- A draw of some number of bits. -/
structure Source where
  bits : Nat
  next : Generator → Nat × Generator

/-- The source that is used for ranges of `span + 1` numbers. -/
def sourceFor (span : Nat) : Source := if span < wordRange then ⟨32, next32⟩ else ⟨64, next64⟩

/-- So many draws in a row fall into the rest with a chance below `2 ^ -256`. -/
def maxRedraws : Nat := 256

/-- Repeats draws while the lower part of `product` is below `rest`. -/
def redraw (source : Source) (size rest : Nat) :
    (fuel : Nat) → (product : Nat) → Generator → Nat × Generator
  | 0, product, g => (product, g)
  | fuel + 1, product, g =>
    if product % Nat.pow 2 source.bits < rest then
      let (n, g) := source.next g
      redraw source size rest fuel (n * size) g
    else (product, g)

/-- A number from zero to `span`, all equally likely. -/
def upTo (g : Generator) (span : Nat) : Nat × Generator :=
  if span == 0 then (0, g)
  else
    let source := sourceFor span
    let whole := Nat.pow 2 source.bits
    let (n, g) := source.next g
    if span + 1 == whole then (n, g)
    else
      let size := span + 1
      let product := n * size
      if product % whole < size then
        let (product, g) := redraw source size ((whole - size) % size) maxRedraws product g
        (product / whole, g)
      else (product / whole, g)

/-- A whole number from `low` to `high`, where `low ≤ high` and both are 64-bit numbers. -/
def between (g : Generator) (low high : Int) : Int × Generator :=
  let (n, g) := g.upTo (high - low).toNat
  (low + n, g)

/-- The bounds that a draw can have. -/
def holdsBound (n : Int) : Bool := -0x8000000000000000 ≤ n && n < 0x8000000000000000

end Generator

end TickCircuit.Random

/-!
# The Mean of a Sample

The mean is the sum of the sample divided by its size. The order in which the sum is formed
decides its last digits, so it is fixed here: short samples are added from left to right; up to
`blockSize` elements run through eight accumulators that are joined pairwise; longer samples are
split near the middle, at a multiple of eight.
-/

namespace TickCircuit.Mean

/-- The largest sample that is summed without splitting. -/
def blockSize : Nat := 128

/-- The sum from left to right, starting from `start`. -/
def sumFrom (start : Float) (xs : List Float) : Float := xs.foldl (· + ·) start

/-- Eight accumulators. -/
structure Lanes where
  a : Float
  b : Float
  c : Float
  d : Float
  e : Float
  f : Float
  g : Float
  h : Float

/-- The accumulators joined pairwise. -/
def Lanes.total (l : Lanes) : Float :=
  ((l.a + l.b) + (l.c + l.d)) + ((l.e + l.f) + (l.g + l.h))

/-- Adds the elements in groups of eight, one to each accumulator. Elements left over after the
last full group are added to the joined accumulators from left to right. -/
def Lanes.sum (l : Lanes) : List Float → Float
  | a :: b :: c :: d :: e :: f :: g :: h :: rest =>
    Lanes.sum ⟨l.a + a, l.b + b, l.c + c, l.d + d, l.e + e, l.f + f, l.g + g, l.h + h⟩ rest
  | rest => sumFrom l.total rest

/-- The sum of at most `blockSize` elements. -/
def blockSum : List Float → Float
  | a :: b :: c :: d :: e :: f :: g :: h :: rest => Lanes.sum ⟨a, b, c, d, e, f, g, h⟩ rest
  | short => sumFrom (-0.0) short

/-- The pairwise sum. Each split leaves two shorter parts, so as many levels as there are elements
are more than enough. -/
def pairwise : (levels : Nat) → List Float → Float
  | 0, xs => blockSum xs
  | levels + 1, xs =>
    let n := xs.length
    if n ≤ blockSize then blockSum xs
    else
      let half := n / 2 - (n / 2) % 8
      pairwise levels (xs.take half) + pairwise levels (xs.drop half)

/-- The sum of a sample. -/
def sum (xs : List Float) : Float := 0.0 + pairwise xs.length xs

/-- The mean of a sample; a NaN for an empty one. -/
def mean (xs : List Float) : Float := sum xs / xs.length.toUInt64.toFloat

end TickCircuit.Mean

/-!
# Seeds

A seed is a sequence of natural numbers. Its words are hashed into a pool of four words, every word
of the pool is mixed into every other one, and the pool is then drawn out into the 256 bits from
which a generator starts. All arithmetic is modulo `2 ^ 32`.
-/

namespace TickCircuit.Random

/-- How many words there are. -/
def wordRange : Nat := 0x100000000

/-- The 32-bit words of a number, the lowest one first; zero has one word. -/
def numberWords (n : Nat) : List UInt32 :=
  if n < wordRange then [n.toUInt32] else n.toUInt32 :: numberWords (n / wordRange)
termination_by n
decreasing_by simp only [wordRange] at *; omega

/-- Folds the upper half of a word into the lower one. -/
def fold (v : UInt32) : UInt32 := v ^^^ (v >>> 16)

/-- Two words joined into one. -/
def join (x y : UInt32) : UInt32 := fold (0xca01f9dd * x - 0x4973f715 * y)

/-- The pool, and the key that changes with every word that is hashed. -/
structure Mixture where
  key : UInt32
  pool : List UInt32

namespace Mixture

def start : Mixture := ⟨0x43b0d7e5, []⟩

/-- A word hashed with the present key. -/
def hashed (m : Mixture) (v : UInt32) : UInt32 :=
  fold ((v ^^^ m.key) * (m.key * 0x931e8875))

/-- The key for the word after the next. -/
def nextKey (m : Mixture) : UInt32 := m.key * 0x931e8875

/-- A word hashed into a new place of the pool. -/
def push (m : Mixture) (v : UInt32) : Mixture := ⟨m.nextKey, m.pool ++ [m.hashed v]⟩

/-- A word hashed and joined with the place `i` of the pool. -/
def stir (m : Mixture) (v : UInt32) (i : Nat) : Mixture :=
  ⟨m.nextKey, m.pool.modify i (join · (m.hashed v))⟩

/-- The word at a place of the pool. -/
def word (m : Mixture) (i : Nat) : UInt32 := m.pool.getD i 0

end Mixture

/-- The places of the pool. -/
def places : List Nat := [0, 1, 2, 3]

/-- The pool for the words of a seed. -/
def pool (words : List UInt32) : List UInt32 :=
  let filled := places.foldl (fun m i => m.push (words.getD i 0)) Mixture.start
  let crossed := places.foldl (fun m s =>
    (places.filter (· != s)).foldl (fun m d => m.stir (m.word s) d) m) filled
  ((words.drop 4).foldl (fun m w => places.foldl (fun m d => m.stir w d) m) crossed).pool

/-- Eight words drawn from a pool. -/
def drawn (pool : List UInt32) : List UInt32 :=
  ((List.range 8).foldl (fun (key, out) i =>
    let next : UInt32 := key * 0x58f38ded
    (next, out ++ [fold ((pool.getD (i % 4) 0 ^^^ key) * next)])) ((0x8b51f9dd : UInt32), [])).2

/-- Words put together to a number, the lowest one first. -/
def wordsNumber : List UInt32 → Nat
  | [] => 0
  | w :: rest => w.toNat + wordRange * wordsNumber rest

/-- The 64-bit words that a seed gives, four of them. -/
def seedWords (seed : List Nat) : List Nat :=
  let out := drawn (pool (seed.flatMap numberWords))
  [0, 2, 4, 6].map fun i => wordsNumber ((out.drop i).take 2)

end TickCircuit.Random

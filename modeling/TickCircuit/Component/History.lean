import TickCircuit.Number.Mean
import TickCircuit.Value.Coercion

/-!
# Histories

A history keeps the newest samples of a signal, oldest first. The limit says how many samples are
wanted and the capacity how many are kept; the two agree unless a limit was refused.

Times are simulated milliseconds.
-/

namespace TickCircuit

/-- A value and the time at which it was taken. -/
structure Sample where
  value : Value
  time : Number

/-- The newest samples of a signal, oldest first. -/
structure History where
  limit : Int
  capacity : Nat
  samples : List Sample

namespace History

/-- The limit of a history for which no other one was set. -/
def standardLimit : Nat := 1000

/-- A history without samples. -/
def empty (limit : Nat) : History := ⟨limit, limit, []⟩

/-- The last `n` items of a list. -/
def newest (n : Nat) (xs : List Sample) : List Sample := xs.drop (xs.length - n)

/-- The history with one more sample; the oldest one goes when there is no room. -/
def push (h : History) (s : Sample) : History :=
  { h with samples := newest h.capacity (h.samples ++ [s]) }

/-- A number that a capacity can be: not negative and within 64 bits. -/
def capacity? (limit : Int) : Except Fault Nat :=
  if limit < -0x8000000000000000 || 0x8000000000000000 ≤ limit then .error .hugeLimit
  else if limit < 0 then .error .negativeLimit
  else .ok limit.toNat

/-- Changes the limit. A limit that is already in force changes nothing. A new one is recorded
before it is tried as a capacity, and the samples are kept as they are when that fails. -/
def setLimit (h : History) (limit : Int) : Except Fault Unit × History :=
  if limit == h.limit then (.ok (), h)
  else match capacity? limit with
    | .error e => (.error e, { h with limit })
    | .ok capacity => (.ok (), ⟨limit, capacity, newest capacity h.samples⟩)

/-- Drops the samples older than `cutoff`. -/
def prune (h : History) (cutoff : Number) : History :=
  { h with samples := h.samples.dropWhile fun s => s.time.lt cutoff }

/-- The mean of the samples. -/
def mean (h : History) : Except Fault Float := do
  return Mean.mean (← h.samples.mapM fun s => s.value.toFloat)

/-- Records a sample and gives the mean of those that are at most `window` seconds old. -/
def windowedMean (h : History) (value : Value) (now window : Number) :
    Except Fault Float × History :=
  let h := (h.push ⟨value, now⟩).prune (now.sub (window.mul (.real 1000.0)))
  (h.mean, h)

end History

end TickCircuit

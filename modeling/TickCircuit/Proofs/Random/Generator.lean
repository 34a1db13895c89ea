import Mathlib.Data.Int.Notation
import Mathlib.Data.Nat.Notation
import TickCircuit.Random.Generator

/-!
# Draws Stay in Their Range

A generator draws 64 bits at a time, or 32 bits and keeps the other half for the next draw. A draw from a
range scales these bits to the size of the range, so it stays in the range however often it is repeated
(`upTo_le`, `between_within`). All that this takes of a generator is that the half that it keeps has no more
than 32 bits (`Sound`); this holds of a new one, and no draw changes it.
-/

namespace TickCircuit.Random

namespace Generator

/-! ## §1 Bits -/

/-- The half that is kept has 32 bits. -/
def Sound (g : Generator) : Prop := ∀ n ∈ g.spare, n < wordRange

variable {g : Generator}

theorem ofSeed_sound (seed : List ℕ) : (ofSeed seed).Sound := by
  unfold ofSeed
  split <;> exact nofun

/-- A source draws as many bits as it says, and keeps the generator sound. -/
def Source.Proper (source : Source) : Prop :=
  ∀ g : Generator, g.Sound → (source.next g).1 < Nat.pow 2 source.bits ∧ (source.next g).2.Sound

theorem next64_lt (g : Generator) : g.next64.1 < Nat.pow 2 64 := by
  unfold next64
  exact BitVec.isLt _

theorem spare_advance (g : Generator) : g.advance.spare = g.spare := by
  unfold advance
  rfl

theorem next64_proper : Source.Proper ⟨64, next64⟩ := fun g sound =>
  ⟨g.next64_lt, fun n kept => sound n (g.spare_advance ▸ kept)⟩

theorem next32_proper : Source.Proper ⟨32, next32⟩ := by
  intro g sound
  dsimp only
  unfold next32
  cases half : g.spare with
  | some n => exact ⟨sound n half, nofun⟩
  | none =>
    -- the lower half is drawn, and the upper half is kept
    have whole : g.next64.1 < wordRange * wordRange := g.next64_lt
    refine ⟨Nat.mod_lt _ (by decide), fun n kept => ?_⟩
    rw [← Option.some.inj kept]
    exact Nat.div_lt_of_lt_mul whole

theorem sourceFor_proper (span : ℕ) : (sourceFor span).Proper := by
  unfold sourceFor
  split
  · exact next32_proper
  · exact next64_proper

/-! ## §2 Ranges -/

/-- **Run**: a product of bits and a size is below the size, in units of all bits, after any redraws. -/
theorem redraw_lt {source : Source} (proper : source.Proper) (rest fuel : ℕ) {size product : ℕ}
    (pos : 0 < size) (sound : g.Sound) (below : product < size * Nat.pow 2 source.bits) :
    (redraw source size rest fuel product g).1 < size * Nat.pow 2 source.bits ∧
      (redraw source size rest fuel product g).2.Sound := by
  induction fuel generalizing product g with
  | zero => exact ⟨below, sound⟩
  | succ fuel ih =>
    rw [redraw]
    split
    · obtain ⟨bits, sound'⟩ := proper g sound
      refine ih sound' ?_
      rw [Nat.mul_comm size]
      exact Nat.mul_lt_mul_of_pos_right bits pos
    · exact ⟨below, sound⟩

theorem upTo_le (sound : g.Sound) (span : ℕ) : (g.upTo span).1 ≤ span ∧ (g.upTo span).2.Sound := by
  unfold upTo
  split
  · exact ⟨Nat.zero_le _, sound⟩
  dsimp only
  obtain ⟨bits, sound'⟩ := sourceFor_proper span g sound
  have product : ((sourceFor span).next g).1 * (span + 1) < (span + 1) * Nat.pow 2 (sourceFor span).bits := by
    rw [Nat.mul_comm (span + 1)]
    exact Nat.mul_lt_mul_of_pos_right bits span.succ_pos
  -- the number of units that a product below the size holds
  have scaled {n : ℕ} (below : n < (span + 1) * Nat.pow 2 (sourceFor span).bits) :
      n / Nat.pow 2 (sourceFor span).bits ≤ span :=
    Nat.le_of_lt_succ (Nat.div_lt_of_lt_mul (by rwa [Nat.mul_comm] at below))
  split
  · next whole =>
    rw [← beq_iff_eq.1 whole] at bits
    exact ⟨Nat.le_of_lt_succ bits, sound'⟩
  split
  · have redrawn (rest : ℕ) :=
      redraw_lt (sourceFor_proper span) rest maxRedraws span.succ_pos sound' product
    exact ⟨scaled (redrawn _).1, (redrawn _).2⟩
  · exact ⟨scaled product, sound'⟩

/-- **Draws**: a draw lies between its bounds. -/
theorem between_within (sound : g.Sound) {low high : ℤ} (ordered : low ≤ high) :
    (low ≤ (g.between low high).1 ∧ (g.between low high).1 ≤ high) ∧ (g.between low high).2.Sound := by
  obtain ⟨within, sound'⟩ := upTo_le sound (high - low).toNat
  have drawn : (g.between low high).1 = low + (g.upTo (high - low).toNat).1 := rfl
  refine ⟨?_, sound'⟩
  rw [drawn]
  omega

end Generator

end TickCircuit.Random

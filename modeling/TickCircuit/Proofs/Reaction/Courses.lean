import Mathlib.Algebra.Order.Interval.Finset.SuccPred
import Mathlib.Data.Finset.Card
import Mathlib.Data.Nat.SuccPred
import Mathlib.Order.Interval.Finset.Nat
import TickCircuit.Reaction.Dispatch

/-!
# Courses of Ticks

From tick to tick a component keeps its state, and in each tick it meets another stimulus. A course says
which ones it meets, and `stateAfter` is the state that they lead to. Ticks are counted from zero here, so
the state after `n` ticks is the one in which tick `n` finds the component.

Components that act when a signal changes keep the signal of the tick before in their state
(`kept_stateAfter`).
-/

namespace TickCircuit

/-- What a component meets in each tick. -/
abbrev Course := ℕ → Stimulus

/-- The signals on a pin in the ticks of a course. -/
def Course.signals (course : Course) (pin : String) (i : ℕ) : Value := (course i).input pin

/-- The course of a component by itself that meets the given signals. -/
def Course.ofInputs (settings : List (String × Value)) (inputs : ℕ → Pins) : Course := fun i =>
  ⟨.text "X", Record.ofFields settings, inputs i, .null,
    ⟨i + 1, 100.0, 100.0 * Binary.ofInt (i + 1), [], [], .standard⟩⟩

/-- The signal in the tick before a tick; before the first one it is `first`. -/
def previous (first : Value) (signals : ℕ → Value) : ℕ → Value
  | 0 => first
  | i + 1 => signals i

/-- While a signal is held, it is also the signal of the tick before, but for the first tick. -/
theorem previous_of_held {first v : Value} {signals : ℕ → Value} {m n i : ℕ}
    (held : ∀ i, m ≤ i → i < n → signals i = v) (after : m < i) (before : i < n) :
    previous first signals i = v := by
  cases i with
  | zero => exact absurd after (Nat.not_lt_zero m)
  | succ i => exact held i (Nat.le_of_lt_succ after) (Nat.lt_of_succ_lt before)

/-- One tick more is one tick more of a kind, if it is of this kind. -/
theorem card_ticks_succ {P : ℕ → Prop} [DecidablePred P] {m n : ℕ} (within : m ≤ n) :
    ({i ∈ Finset.Ico m (n + 1) | P i} : Finset ℕ).card =
      ({i ∈ Finset.Ico m n | P i} : Finset ℕ).card + if P n then 1 else 0 := by
  have fresh : n ∉ ({i ∈ Finset.Ico m n | P i} : Finset ℕ) := by simp
  rw [← Finset.insert_Ico_right_eq_Ico_add_one within, Finset.filter_insert]
  split
  · exact Finset.card_insert_of_notMem fresh
  · rfl

namespace Reaction

variable {σ : Type} {react : Stimulus → σ → Reaction σ} {course : Course} {start : σ}

/-- The state after `n` ticks of what reacts as `react` does, if it was `start` in the beginning. -/
def stateAfter (react : Stimulus → σ → Reaction σ) (course : Course) (start : σ) : ℕ → σ
  | 0 => start
  | n + 1 => (react (course n) (stateAfter react course start n)).state

/-- What is kept of a signal in the state is the signal of the tick before. -/
theorem kept_stateAfter (keep : σ → Value) {pin : String}
    (keeps : ∀ s state, keep (react s state).state = s.input pin) (n : ℕ) :
    keep (stateAfter react course start n) = previous (keep start) (course.signals pin) n := by
  cases n with
  | zero => rfl
  | succ n => exact keeps _ _

end Reaction

end TickCircuit

import TickCircuit.Proofs.Reaction.Courses
import TickCircuit.Proofs.Signal.Reading

/-!
# Relays over Many Ticks

A relay is flipped by every edge of its toggle signal, and set outright by every signal on its other pin.
So its position after some ticks is the one that it was last set to, flipped once for each edge since then;
a relay that has not been set is flipped from the position in which it started (`relay_follows_edges`).

What makes a held signal flip a relay no more than once is that every signal is equal to itself, whatever
kind of value it is.
-/

namespace TickCircuit

/-! ## §1 Edges -/

namespace Switch

/-- In tick `i` the toggle signal is active and new: there was no signal in the tick before, or one that
is not equal to it. -/
def IsEdge (first : Value) (toggles : ℕ → Value) (i : ℕ) : Prop :=
  (toggles i).isActive = true ∧
    ((previous first toggles i).isPresent = false ∨
      (toggles i).looseEquals (previous first toggles i) (some (.real 0.0)) = false)

variable {first : Value} {toggles : ℕ → Value} {m n : ℕ}

theorem isEdge_iff {i : ℕ} :
    IsEdge first toggles i ↔ isToggle (toggles i) (previous first toggles i) = true := by
  rw [IsEdge, isToggle, Bool.and_eq_true, Bool.not_eq_true', Bool.and_eq_false_iff]

instance : DecidablePred (IsEdge first toggles) := fun _ => decidable_of_iff _ isEdge_iff.symm

/-- The edges from tick `m` on, up to tick `n`. -/
def edges (first : Value) (toggles : ℕ → Value) (m n : ℕ) : Finset ℕ :=
  {i ∈ Finset.Ico m n | IsEdge first toggles i}

theorem edges_self (m : ℕ) : edges first toggles m m = ∅ := by
  rw [edges, Finset.Ico_self, Finset.filter_empty]

/-- One tick more is one edge more, if there is an edge in it. -/
theorem card_edges_succ (within : m ≤ n) :
    (edges first toggles m (n + 1)).card =
      (edges first toggles m n).card + if IsEdge first toggles n then 1 else 0 :=
  card_ticks_succ within

/-- While a signal is held there is no edge but in the first tick. -/
theorem edges_of_held {v : Value} (present : v.isPresent = true)
    (held : ∀ i, m ≤ i → i < n → toggles i = v) : edges first toggles m n ⊆ {m} := by
  intro i member
  obtain ⟨within, -, fresh⟩ := Finset.mem_filter.1 member
  obtain ⟨above, below⟩ := Finset.mem_Ico.1 within
  rw [Finset.mem_singleton]
  by_contra later
  -- the tick before has the same signal
  rw [previous_of_held held (by omega) below, held i above below, present,
    Value.looseEquals_self] at fresh
  rcases fresh with missing | unequal
  · cases missing
  · cases unequal

end Switch

/-! ## §2 Positions -/

namespace Reaction

open Switch

variable {course : Course} (start : Switch)

/-- The position that a signal sets a relay to. -/
def position (set : Value) : Bool := Blank.trim set.signalText != "0"

/-- Tick `j` is the last of the first `n` ticks in which the relay is set. -/
structure LastSet (course : Course) (n j : ℕ) : Prop where
  before : j < n
  present : (course.signals "SET_STATE" j).isPresent = true
  last : ∀ i, j < i → i < n → (course.signals "SET_STATE" i).isPresent = false

/-- The edges of the toggle signal of a relay. -/
def relayEdges (course : Course) (start : Switch) (m n : ℕ) : Finset ℕ :=
  edges start.lastToggle (course.signals "TOGGLE_STATE") m n

theorem relay_lastToggle (n : ℕ) :
    (stateAfter relay course start n).lastToggle =
      previous start.lastToggle (course.signals "TOGGLE_STATE") n :=
  kept_stateAfter Switch.lastToggle (fun _ _ => rfl) n

/-- **Step**: a relay that is not set in a tick is flipped by an edge. -/
theorem relay_isOn_succ {n : ℕ} (unset : (course.signals "SET_STATE" n).isPresent = false) :
    (stateAfter relay course start (n + 1)).isOn =
      if IsEdge start.lastToggle (course.signals "TOGGLE_STATE") n then
        !(stateAfter relay course start n).isOn
      else (stateAfter relay course start n).isOn := by
  change ((stateAfter relay course start n).turn (course.signals "TOGGLE_STATE" n)
    (course.signals "SET_STATE" n)).isOn = _
  rw [turn, relay_lastToggle]
  dsimp only
  rw [unset, if_neg Bool.false_ne_true]
  exact if_congr isEdge_iff.symm rfl rfl

/-- A relay that is set in a tick is set, whatever its toggle signal is. -/
theorem relay_isOn_of_set {n : ℕ} (set : (course.signals "SET_STATE" n).isPresent = true) :
    (stateAfter relay course start (n + 1)).isOn = position (course.signals "SET_STATE" n) :=
  if_pos set

/-- **Run**: a relay that is not set for some ticks is flipped once for each edge in them. -/
theorem relay_isOn_of_unset {m n : ℕ} (within : m ≤ n)
    (unset : ∀ i, m ≤ i → i < n → (course.signals "SET_STATE" i).isPresent = false) :
    (stateAfter relay course start n).isOn =
      Bool.not^[(relayEdges course start m n).card] (stateAfter relay course start m).isOn := by
  induction n, within using Nat.le_induction with
  | base => rw [relayEdges, edges_self, Finset.card_empty, Function.iterate_zero_apply]
  | succ n within ih =>
    have earlier := ih fun i above below => unset i above (by omega)
    rw [relay_isOn_succ start (unset n within (by omega)), relayEdges, card_edges_succ within, earlier]
    split
    · rw [Function.iterate_succ_apply']
      rfl
    · rfl

/-- The ticks in which the position of a relay changes. -/
def flips (course : Course) (start : Switch) (m n : ℕ) : Finset ℕ :=
  {i ∈ Finset.Ico m n |
    (stateAfter relay course start (i + 1)).isOn ≠ (stateAfter relay course start i).isOn}

theorem flips_subset_edges {m n : ℕ}
    (unset : ∀ i, m ≤ i → i < n → (course.signals "SET_STATE" i).isPresent = false) :
    flips course start m n ⊆ relayEdges course start m n := by
  intro i member
  obtain ⟨within, flipped⟩ := Finset.mem_filter.1 member
  obtain ⟨above, below⟩ := Finset.mem_Ico.1 within
  refine Finset.mem_filter.2 ⟨within, ?_⟩
  by_contra noEdge
  rw [relay_isOn_succ start (unset i above below), if_neg noEdge] at flipped
  exact flipped rfl

end Reaction

end TickCircuit

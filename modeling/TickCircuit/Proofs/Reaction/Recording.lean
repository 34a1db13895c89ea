import TickCircuit.Proofs.Component.Windows
import TickCircuit.Proofs.Reaction.Reached

/-!
# Histories of Components

Nine kinds of components have a history. They record in it at most one sample in each reaction, and only
through the mean of a time window (`history_react`). So whatever holds of an empty history, and is kept by
windowed means and by new limits, holds of every history that a component comes to: that it has room for its
samples and no more room than its limit allows, for one (`Reached.withinLimit`).
-/

namespace TickCircuit

/-! ## §1 Shapes -/

namespace Shape

variable {shape : Shape} {state : shape.State}

/-- The history that a state of a shape is, if it is one. -/
def history? : (s : Shape) → s.State → Option History
  | .window, history => some history
  | _, _ => none

theorem history?_initial {settings : Record} (starts : shape.initial settings = .ok state)
    {history : History} (shown : shape.history? state = some history) :
    history = .empty History.standardLimit := by
  cases shape with
  | window =>
    cases starts
    exact (Option.some.inj shown).symm
  | _ => cases shown

theorem history?_limitState (limit : ℕ) :
    shape.history? (Component.limitState limit shape state).2 =
      (shape.history? state).map fun h => (h.setLimit limit).2 := by
  cases shape <;> rfl

end Shape

/-! ## §2 Reactions -/

/-- A window that is set has a length. -/
theorem Arithmetic.lt_of_window? {v : Value} {seconds : Number} (window : window? v = some seconds) :
    (Number.int 0).lt seconds = true := by
  unfold window? at window
  obtain ⟨n, -, kept⟩ := Option.bind_eq_some_iff.1 window
  split at kept
  · next positive =>
    cases kept
    exact positive
  · cases kept

namespace Reaction

/-- An arithmetic component leaves its history as it is or takes a windowed mean. -/
theorem arithmetic_state (s : Stimulus) (history : History) (operation : Number → Number → Number) :
    (arithmetic s history operation).state = history ∨
      ∃ v window, (arithmetic s history operation).state =
        (history.windowedMean v (.real s.moment.now) window).2 := by
  unfold arithmetic
  split
  · next a b _ _ =>
    unfold Arithmetic.finish
    dsimp only
    cases Arithmetic.window? (s.setting "timeFrame") with
    | none => exact .inl rfl
    | some window =>
      refine .inr ⟨.ofNumber (Arithmetic.finiteOrZero (operation a b)), window, ?_⟩
      dsimp only
      split <;> next same => exact (congrArg Prod.snd same).symm
  · exact .inl rfl

/-- A gate with a time window records the outcome of its test. -/
theorem gate_state_of_window {s : Stimulus} {window : Number}
    (given : Arithmetic.window? (s.setting "timeFrame") = some window) (history : History)
    (test : Value → Value → Bool) :
    (gate s history test).state =
      (history.windowedMean (.ofFlag (test (first s) (second s))) (.real s.moment.now) window).2 := by
  unfold gate Gate.smoothed
  rw [given]
  dsimp only
  split <;> next same => exact (congrArg Prod.snd same).symm

/-- So a gate, too, leaves its history as it is or takes a windowed mean. -/
theorem gate_state (s : Stimulus) (history : History) (test : Value → Value → Bool) :
    (gate s history test).state = history ∨
      ∃ v window, (gate s history test).state =
        (history.windowedMean v (.real s.moment.now) window).2 := by
  cases window : Arithmetic.window? (s.setting "timeFrame") with
  | none =>
    unfold gate Gate.smoothed
    rw [window]
    exact .inl rfl
  | some seconds => exact .inr ⟨_, seconds, gate_state_of_window window history test⟩

/-- The history after a reaction is the one before, or one more sample has come to it. -/
theorem history_react {k : Kind} {state : k.shape.State} (s : Stimulus) {after : History}
    (left : k.shape.history? (ofKind s k state).state = some after) :
    ∃ before, k.shape.history? state = some before ∧ (after = before ∨
      ∃ v window, after = (before.windowedMean v (.real s.moment.now) window).2) := by
  cases k with
  | adder | subtract | multiply | divide =>
    cases left
    exact ⟨state, rfl, arithmetic_state s state _⟩
  | equals | and | or | xor | greater =>
    cases left
    exact ⟨state, rfl, gate_state s state _⟩
  | _ => cases left

/-- **Run**: a history that a component comes to has room for its samples, and no more than its limit allows. -/
theorem Reached.withinLimit {k : Kind} {state : k.shape.State} (reached : Reached k state) {history : History}
    (shown : k.shape.history? state = some history) : history.WithinLimit := by
  induction reached generalizing history with
  | initial starts =>
    rw [Shape.history?_initial starts shown]
    exact .empty (by decide)
  | react s _ ih =>
    obtain ⟨before, shownBefore, rfl | ⟨v, window, rfl⟩⟩ := history_react s shown
    · exact ih shownBefore
    · exact (ih shownBefore).windowedMean ..
  | limit limit _ ih =>
    rw [Shape.history?_limitState, Option.map_eq_some_iff] at shown
    obtain ⟨before, shownBefore, rfl⟩ := shown
    exact (ih shownBefore).setLimit limit
  | press => cases shown

end Reaction

end TickCircuit

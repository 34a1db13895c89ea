import TickCircuit.Proofs.Reaction.Selectors

/-!
# Passing over Empty Channels

A selector that passes over empty channels moves to the nearest connected channel ahead: around the circle
if it wraps around, and on the way to the last or the first channel otherwise. Where there is none, one
that wraps around comes back to where it was. One that does not is held at the end of the channels, though
nothing is connected there (`selection_passes_empty`).

A move takes as many steps as there are channels. After `k` of them it is at the channel that
`start + k * step` is brought to (`Rule.bound_step`), and the first connected one ends it
(`Rule.move_ends`).
-/

namespace TickCircuit

namespace Selecting.Rule

variable {r : Rule} {connected : Int → Bool} {start step : Int}

/-! ## §1 Channels Ahead -/

/-- A channel other than `start` is `distance` steps ahead of it. -/
structure Ahead (r : Rule) (start step : Int) (distance : ℕ) (channel : Int) : Prop where
  positive : 0 < distance
  distance_lt : distance < 10
  isChannel : 0 ≤ channel ∧ channel ≤ 9
  reached : if r.wrapAround then (start + distance * step) % 10 = channel
    else start + distance * step = channel

/-- Where a move stops that meets no connected channel. -/
def terminus (r : Rule) (start step : Int) : Int :=
  if r.wrapAround then start else if 0 < step then 9 else 0

/-- A move that passes over empty channels has ended where it should: on the nearest connected channel
ahead, or at the terminus if none is connected. -/
inductive Arrives (r : Rule) (connected : Int → Bool) (start step : Int) (channel : Int) : Prop where
  | nearest {distance : ℕ} (ahead : r.Ahead start step distance channel)
      (isConnected : connected channel = true)
      (first : ∀ d < distance, ∀ other, r.Ahead start step d other → connected other = false)
  | none (empty : ∀ d other, r.Ahead start step d other → connected other = false)
      (stopped : channel = r.terminus start step)

theorem Ahead.bound_eq {distance : ℕ} {channel : Int} (ahead : r.Ahead start step distance channel) :
    r.bound (start + distance * step) = channel := by
  have reached := ahead.reached
  cases wraps : r.wrapAround with
  | true =>
    rw [if_pos wraps] at reached
    rw [bound_of_wrapAround wraps, reached]
  | false =>
    rw [wraps, if_neg Bool.false_ne_true] at reached
    rw [reached, r.bound_of_isChannel ahead.isChannel.1 ahead.isChannel.2]

/-! ## §2 The Way of a Move -/

/-- One step more. -/
theorem bound_step (low : 0 ≤ start) (high : start ≤ 9) (unit : step = 1 ∨ step = -1) (k : ℕ) :
    r.bound (r.bound (start + k * step) + step) = r.bound (start + (k + 1 : ℕ) * step) := by
  cases wraps : r.wrapAround with
  | true =>
    rw [bound_of_wrapAround wraps, bound_of_wrapAround wraps, bound_of_wrapAround wraps]
    rcases unit with rfl | rfl <;> push_cast <;> omega
  | false =>
    rw [bound_of_not_wrapAround wraps, bound_of_not_wrapAround wraps,
      bound_of_not_wrapAround wraps]
    rcases unit with rfl | rfl <;> push_cast <;> omega

/-- A move ends at the first connected channel on its way, or after its last step. -/
theorem move_ends (connected : Int → Bool) (skips : r.skipEmpty = true) (low : 0 ≤ start) (high : start ≤ 9)
    (unit : step = 1 ∨ step = -1) (fuel done : ℕ) :
    let visited := fun k : ℕ => r.bound (start + k * step)
    let last := r.move connected step fuel (visited done)
    (∃ k, done < k ∧ k ≤ done + fuel ∧ last = visited k ∧ connected (visited k) = true ∧
        ∀ i, done < i → i < k → connected (visited i) = false) ∨
      last = visited (done + fuel) ∧
        ∀ i, done < i → i ≤ done + fuel → connected (visited i) = false := by
  intro visited last
  induction fuel generalizing done with
  | zero => exact .inr ⟨rfl, fun i above below => absurd above (by omega)⟩
  | succ fuel ih =>
    have step_eq : last = if connected (visited (done + 1)) then visited (done + 1)
        else r.move connected step fuel (visited (done + 1)) := by
      change r.move connected step (fuel + 1) (r.bound (start + done * step)) = _
      rw [move, bound_step low high unit, skips]
      rfl
    by_cases here : connected (visited (done + 1)) = true
    · rw [if_pos here] at step_eq
      exact .inl ⟨done + 1, by omega, by omega, step_eq, here, fun i above below => by omega⟩
    · rw [if_neg here] at step_eq
      have empty (i : ℕ) (above : done < i) (below : i ≤ done + 1) :
          connected (visited i) = false := by
        rw [show i = done + 1 by omega]
        exact Bool.eq_false_iff.2 here
      -- the rest of the way starts one step further on
      rcases ih (done + 1) with ⟨k, above, below, ended, found, before⟩ | ⟨ended, before⟩
      · refine .inl ⟨k, by omega, by omega, step_eq.trans ended, found, fun i after before' => ?_⟩
        by_cases next : i ≤ done + 1
        · exact empty i after next
        · exact before i (by omega) before'
      · refine .inr ⟨?_, fun i after before' => ?_⟩
        · rw [step_eq, ended, show done + 1 + fuel = done + (fuel + 1) by omega]
        · by_cases next : i ≤ done + 1
          · exact empty i after next
          · exact before i (by omega) (by omega)

/-- Where the way of a move leads that is not held at the end of the channels, there is a channel ahead. -/
theorem ahead_visited {k : ℕ} (positive : 0 < k) (lt : k < 10)
    (free : r.wrapAround = false → 0 ≤ start + k * step ∧ start + k * step ≤ 9) :
    r.Ahead start step k (r.bound (start + k * step)) where
  positive := positive
  distance_lt := lt
  isChannel := r.bound_isChannel _
  reached := by
    cases wraps : r.wrapAround with
    | true =>
      rw [if_pos rfl, bound_of_wrapAround wraps]
    | false =>
      obtain ⟨low, high⟩ := free wraps
      rw [if_neg Bool.false_ne_true, r.bound_of_isChannel low high]

/-- Before a channel that is ahead, the way of a move has met it. -/
theorem empty_of_visited {k : ℕ}
    (before : ∀ i : ℕ, 0 < i → i < k → connected (r.bound (start + i * step)) = false) {d : ℕ}
    {other : Int} (lt : d < k) (ahead : r.Ahead start step d other) : connected other = false := by
  rw [← ahead.bound_eq]
  exact before d ahead.positive lt

/-! ### At the end of the channels -/

section Stopping

variable (stops : r.wrapAround = false) (unit : step = 1 ∨ step = -1)

include stops unit

/-- A way that leads beyond the channels has come to the terminus. -/
theorem bound_of_beyond (low : 0 ≤ start) (high : start ≤ 9) {k : ℕ}
    (beyond : ¬ (0 ≤ start + k * step ∧ start + k * step ≤ 9)) :
    r.bound (start + k * step) = r.terminus start step := by
  rw [bound_of_not_wrapAround stops, terminus, stops]
  rcases unit with rfl | rfl
  · change _ = (9 : Int)
    omega
  · change _ = (0 : Int)
    omega

/-- It has come there before, unless it started there. -/
theorem exists_earlier (low : 0 ≤ start) (high : start ≤ 9) {k : ℕ}
    (beyond : ¬ (0 ≤ start + k * step ∧ start + k * step ≤ 9))
    (away : start ≠ r.terminus start step) :
    ∃ i : ℕ, 0 < i ∧ i < k ∧ r.bound (start + i * step) = r.terminus start step := by
  rw [terminus, stops] at away ⊢
  simp only [bound_of_not_wrapAround stops]
  rcases unit with rfl | rfl
  · change start ≠ 9 at away
    exact ⟨(9 - start).toNat, by omega, by omega, show _ = (9 : Int) by omega⟩
  · change start ≠ 0 at away
    exact ⟨start.toNat, by omega, by omega, show _ = (0 : Int) by omega⟩

/-- From the terminus no channel is ahead. -/
theorem not_ahead_of_terminus (there : start = r.terminus start step) (d : ℕ) (other : Int) :
    ¬ r.Ahead start step d other := by
  rintro ⟨positive, -, isChannel, reached⟩
  rw [terminus, stops] at there
  rw [stops, if_neg Bool.false_ne_true] at reached
  rcases unit with rfl | rfl
  · change start = 9 at there
    omega
  · change start = 0 at there
    omega

end Stopping

/-! ### The end of the way -/

section Arriving

variable (unit : step = 1 ∨ step = -1)

include unit

/-- After as many steps as there are channels, the way leads around the circle or beyond the channels. -/
theorem bound_of_all_steps (low : 0 ≤ start) (high : start ≤ 9) :
    r.bound (start + (10 : ℕ) * step) = r.terminus start step := by
  cases wraps : r.wrapAround with
  | true =>
    rw [bound_of_wrapAround wraps, terminus, if_pos wraps]
    omega
  | false =>
    refine bound_of_beyond wraps unit low high ?_
    rcases unit with rfl | rfl <;> omega

/-- A way that ends at the first connected channel on it ends where it should. -/
theorem arrives_of_found (low : 0 ≤ start) (high : start ≤ 9) {k : ℕ} (positive : 0 < k) (le : k ≤ 10)
    (found : connected (r.bound (start + k * step)) = true)
    (before : ∀ i : ℕ, 0 < i → i < k → connected (r.bound (start + i * step)) = false) :
    r.Arrives connected start step (r.bound (start + k * step)) := by
  by_cases onWay : k < 10 ∧ (r.wrapAround = false → 0 ≤ start + k * step ∧ start + k * step ≤ 9)
  · exact .nearest (ahead_visited positive onWay.1 onWay.2) found
      fun d lt other ahead => empty_of_visited before lt ahead
  cases wraps : r.wrapAround with
  | true =>
    -- the whole circle has been gone round
    obtain rfl : k = 10 := by
      by_contra other
      exact onWay ⟨by omega, fun stops => by rw [wraps] at stops; cases stops⟩
    exact .none (fun d other ahead => empty_of_visited before ahead.distance_lt ahead)
      (bound_of_all_steps unit low high)
  | false =>
    have beyond : ¬ (0 ≤ start + k * step ∧ start + k * step ≤ 9) := by
      intro free
      refine onWay ⟨?_, fun _ => free⟩
      rcases unit with rfl | rfl <;> omega
    have stopped := bound_of_beyond wraps unit low high beyond
    by_cases there : start = r.terminus start step
    · exact .none (fun d other ahead =>
        absurd ahead (not_ahead_of_terminus wraps unit there d other)) stopped
    · -- the terminus was met before, and it is connected
      obtain ⟨i, after, earlier, visited⟩ := exists_earlier wraps unit low high beyond there
      have empty := before i after earlier
      rw [visited, ← stopped, found] at empty
      cases empty

end Arriving

/-- **Moves**: a move that passes over empty channels ends where it should. -/
theorem move_arrives (connected : Int → Bool) (skips : r.skipEmpty = true) (low : 0 ≤ start)
    (high : start ≤ 9) (unit : step = 1 ∨ step = -1) :
    r.Arrives connected start step (r.move connected step Kind.channels start) := by
  have ends := move_ends connected skips low high unit 10 0
  dsimp only at ends
  rw [show r.bound (start + (0 : ℕ) * step) = start by simp [r.bound_of_isChannel low high],
    Nat.zero_add] at ends
  change r.Arrives connected start step (r.move connected step 10 start)
  rcases ends with ⟨k, positive, le, ended, found, before⟩ | ⟨ended, before⟩
  · rw [ended]
    exact arrives_of_found unit low high positive le found before
  · refine .none (fun d other ahead => ?_) (ended.trans (bound_of_all_steps unit low high))
    rw [← ahead.bound_eq]
    exact before d ahead.positive ahead.distance_lt.le

end Selecting.Rule

/-! ## §3 Selectors -/

namespace Selector

open Reaction Selecting

/-- **Passing over empty channels**: a selector that does so and is not set is moved to the nearest
connected channel ahead. If there is none, it stays where it was, or goes to the end of the channels if it
does not wrap around. So it comes from a connected channel to a connected one, if it wraps around, if there
is one ahead, or if it was at the end already. -/
theorem selection_passes_empty (w : Selector) (s : Stimulus) (state : Selection)
    (skips : (s.setting "skipEmptyConnections").truthy = true)
    (unset : (s.input w.setPin).wholeReading? = none)
    (edge : IsMoveEdge (s.input w.movePin) state.lastMove) :
    let r := selectorRule s
    let start := r.bound state.channel
    let step := (s.input w.movePin).numberOrZero.sign
    let selected := (w.react s state).state.channel
    (step = 1 ∨ step = -1) ∧
      ((∃ d channel, r.Ahead start step d channel ∧ w.isConnected s channel = true) →
        ∃ d, r.Ahead start step d selected ∧ w.isConnected s selected = true ∧
          ∀ d' < d, ∀ channel, r.Ahead start step d' channel → w.isConnected s channel = false) ∧
      ((∀ d channel, r.Ahead start step d channel → w.isConnected s channel = false) →
        selected = if r.wrapAround then start else if 0 < step then 9 else 0) ∧
      (w.isConnected s start = true →
        (r.wrapAround = true ∨
            (∃ d channel, r.Ahead start step d channel ∧ w.isConnected s channel = true) ∨
            start = if 0 < step then 9 else 0) →
          w.isConnected s selected = true) := by
  intro r start step selected
  obtain ⟨low, high⟩ := r.bound_isChannel state.channel
  have unit : step = 1 ∨ step = -1 := by
    have moving := edge.1
    change (s.input w.movePin).numberOrZero.sign = 1 ∨ (s.input w.movePin).numberOrZero.sign = -1
    rw [Value.numberOrZero]
    cases read : (s.input w.movePin).reading? with
    | none =>
      rw [read] at moving
      cases moving
    | some n =>
      rw [read] at moving
      exact Value.sign_of_reading? read (by simpa using moving)
  have arrives : r.Arrives (w.isConnected s) start step selected := by
    have selected_eq : selected = r.move (w.isConnected s) step Kind.channels start := by
      change (w.react s state).state.channel = _
      rw [react_state, Rule.select, unset, if_pos (isMoveEdge_iff.1 edge)]
      rfl
    rw [selected_eq]
    exact r.move_arrives _ skips low high unit
  refine ⟨unit, ?_, ?_, ?_⟩
  · rintro ⟨d, channel, ahead, connected⟩
    cases arrives with
    | nearest nearest isConnected first => exact ⟨_, nearest, isConnected, first⟩
    | none empty =>
      rw [empty d channel ahead] at connected
      cases connected
  · intro empty
    cases arrives with
    | nearest nearest isConnected =>
      rw [empty _ _ nearest] at isConnected
      cases isConnected
    | none _ stopped => exact stopped
  · intro fromConnected reason
    cases arrives with
    | nearest _ isConnected => exact isConnected
    | none empty stopped =>
      rw [stopped, Rule.terminus]
      rcases reason with wraps | ⟨d, channel, ahead, connected⟩ | atEnd
      · rwa [if_pos wraps]
      · rw [empty d channel ahead] at connected
        cases connected
      · rw [← atEnd, ite_self]
        exact fromConnected

/-- An input selector in its first tick. It passes over empty channels, does not wrap around and is moved
up, and wires lead to some of its channels. -/
def passingUp (channels : List Int) : Stimulus :=
  ⟨.text "S", Record.ofFields [("wrapAround", .flag false), ("skipEmptyConnections", .flag true)],
    [("MOVE_INPUT", .text "3.5")], .null, ⟨1, 100.0, 100.0,
      channels.map fun k => ⟨.text (pin "W" k), .text "Constant1", .text "VALUE_OUT", .text "S",
        .text (pin "SIGNAL_IN_" k)⟩, [], .standard⟩⟩

/-- From channel two it goes over four empty channels to channel seven. -/
theorem selection_passes_empty_to_seven :
    let s := passingUp [0, 7, 9]
    let state : Selection := ⟨2, .null⟩
    (s.setting "skipEmptyConnections").truthy = true ∧
      (s.input input.setPin).wholeReading? = none ∧
      IsMoveEdge (s.input input.movePin) state.lastMove ∧
      (input.react s state).state.channel = 7 ∧
      ∃ d, (selectorRule s).Ahead 2 1 d 7 ∧ ∀ d' < d, ∀ channel,
        (selectorRule s).Ahead 2 1 d' channel → input.isConnected s channel = false := by
  intro s state
  have edge : IsMoveEdge (s.input input.movePin) state.lastMove := by decide +kernel
  have up : (s.input input.movePin).numberOrZero.sign = 1 := by decide +kernel
  have start : (selectorRule s).bound state.channel = 2 := rfl
  have selected : (input.react s state).state.channel = 7 := by decide +kernel
  have passes := (selection_passes_empty input s state rfl rfl edge).2.1
  rw [up, start, selected] at passes
  have seven : (selectorRule s).Ahead 2 1 5 7 := ⟨by decide, by decide, by decide, rfl⟩
  obtain ⟨d, ahead, -, nearest⟩ := passes ⟨5, 7, seven, by decide +kernel⟩
  exact ⟨rfl, rfl, edge, selected, d, ahead, nearest⟩

/-- From a connected channel with no connected one ahead it goes to the last channel, which is empty. -/
theorem selection_held_at_empty_end :
    let s := passingUp [0]
    let state : Selection := ⟨0, .absent⟩
    input.isConnected s 0 = true ∧
      (∀ d channel, (selectorRule s).Ahead 0 1 d channel → input.isConnected s channel = false) ∧
      (input.react s state).state.channel = 9 ∧ input.isConnected s 9 = false := by
  intro s state
  have others : ∀ k : Fin 9, input.isConnected s (k + 1) = false := by decide +kernel
  refine ⟨by decide +kernel, fun d channel ahead => ?_, by decide +kernel, others 8⟩
  have reached : 0 + d * 1 = channel := ahead.reached
  have positive := ahead.positive
  have high := ahead.isChannel.2
  have empty := others ⟨d - 1, by omega⟩
  rwa [show ((⟨d - 1, by omega⟩ : Fin 9) : Int) + 1 = channel by simp; omega] at empty

end Selector

end TickCircuit

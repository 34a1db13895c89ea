import Mathlib.Algebra.BigOperators.Intervals
import Std.Data.String.ToInt
import TickCircuit.Proofs.Reaction.Courses
import TickCircuit.Proofs.Signal.Reading

/-!
# Selectors over Many Ticks

After every tick the selection of a selector is a channel, and the selector shows it. One that wraps
around, passes over no channels and is not set directly counts the moves: its selection is the first one
and the signs of all moves, modulo the number of channels (`selector_counts_moves`). A move is the tick in
which the move signal turns from zero to something else, so a signal that is held moves once.

The two kinds of selectors differ in their pins and in what they emit; how they select is the same.
-/

namespace TickCircuit

/-- The signal on one of the pins that signals were put on. -/
theorem Pins.read_map_append {names : List String} {name : String} (member : name ∈ names)
    {signal : String → Value} {others : Pins} :
    Pins.read (names.map (fun p => (p, signal p)) ++ others) name = signal name := by
  induction names with
  | nil => cases member
  | cons first rest ih =>
    rw [Pins.read, List.map_cons, List.cons_append, List.lookup_cons]
    by_cases here : name = first
    · rw [beq_iff_eq.2 here, here]
      rfl
    · rw [beq_false_of_ne here]
      exact ih ((List.mem_cons.1 member).resolve_left here)

namespace Selecting

/-! ## §1 Channels -/

namespace Rule

variable {r : Rule} {connected : Int → Bool} {step : Int}

theorem bound_of_wrapAround (wraps : r.wrapAround = true) (channel : Int) :
    r.bound channel = channel % 10 := by
  rw [bound, if_pos wraps]
  rfl

theorem bound_of_not_wrapAround (stops : r.wrapAround = false) (channel : Int) :
    r.bound channel = max 0 (min 9 channel) := by
  rw [bound, stops]
  rfl

theorem bound_isChannel (r : Rule) (channel : Int) :
    0 ≤ r.bound channel ∧ r.bound channel ≤ 9 := by
  cases wraps : r.wrapAround with
  | true =>
    rw [bound_of_wrapAround wraps]
    omega
  | false =>
    rw [bound_of_not_wrapAround wraps]
    omega

/-- What is a channel already is left as it is. -/
theorem bound_of_isChannel (r : Rule) {channel : Int} (low : 0 ≤ channel) (high : channel ≤ 9) :
    r.bound channel = channel := by
  cases wraps : r.wrapAround with
  | true =>
    rw [bound_of_wrapAround wraps]
    omega
  | false =>
    rw [bound_of_not_wrapAround wraps]
    omega

/-- A move ends on a channel. -/
theorem move_isChannel (fuel : Nat) (channel : Int) :
    0 ≤ r.move connected step (fuel + 1) channel ∧ r.move connected step (fuel + 1) channel ≤ 9 := by
  induction fuel generalizing channel with
  | zero =>
    rw [move]
    split <;> exact r.bound_isChannel _
  | succ fuel ih =>
    rw [move]
    split
    · exact r.bound_isChannel _
    · exact ih _

theorem select_isChannel (selection : Selection) (set move : Value) :
    0 ≤ (r.select connected selection set move).channel ∧
      (r.select connected selection set move).channel ≤ 9 := by
  unfold select
  dsimp only
  split
  · exact move_isChannel 9 _
  · exact r.bound_isChannel _

end Rule

theorem pin_inj {stem : String} {k l : Int} : pin stem k = pin stem l ↔ k = l :=
  ⟨fun h => Int.repr_injective ((String.append_right_inj stem).1 h), congrArg (pin stem)⟩

theorem pin_mem_channelPins (stem : String) {k : Int} (low : 0 ≤ k) (high : k ≤ 9) :
    pin stem k ∈ Kind.channelPins stem := by
  lift k to ℕ using low
  exact List.mem_map_of_mem (List.mem_range.2 (show k < 10 by omega))

/-! ## §2 Moves -/

/-- The signal is a number other than zero, and in the tick before there was no signal, none that is a
number, or a zero. -/
def IsMoveEdge (current last : Value) : Prop :=
  current.reading?.any (fun n => !n.isZero) = true ∧ last.reading?.all Number.isZero = true

instance (current last : Value) : Decidable (IsMoveEdge current last) :=
  inferInstanceAs (Decidable (_ ∧ _))

theorem isZero_numberOrZero (v : Value) : v.numberOrZero.isZero = v.reading?.all Number.isZero := by
  rw [Value.numberOrZero]
  cases v.reading? with
  | none => rfl
  | some n => rfl

theorem isMoveEdge_iff {current last : Value} :
    IsMoveEdge current last ↔ isMove current last = true := by
  rw [IsMoveEdge, isMove, isZero_numberOrZero, isZero_numberOrZero, Bool.and_eq_true]
  refine and_congr_left fun _ => ?_
  -- only what is present reads as a number
  cases read : current.reading? with
  | none => simp
  | some n => simp [Value.isPresent_of_reading? read]

/-- After a number other than zero nothing moves. -/
theorem not_isMoveEdge {current last : Value} (moving : last.reading?.any (fun n => !n.isZero) = true) :
    ¬ IsMoveEdge current last := by
  rintro ⟨-, still⟩
  cases read : last.reading? with
  | none =>
    rw [read] at moving
    cases moving
  | some n =>
    rw [read] at moving still
    simp_all

end Selecting

/-! ## §3 The Two Kinds -/

inductive Selector where
  | input
  | output

namespace Selector

open Reaction Selecting

def kind : Selector → Kind
  | input => .inputSelector
  | output => .outputSelector

def setPin : Selector → String
  | input => "SET_INPUT"
  | output => "SET_OUTPUT"

def movePin : Selector → String
  | input => "MOVE_INPUT"
  | output => "MOVE_OUTPUT"

def selectedPin : Selector → String
  | input => "SELECTED_INPUT_OUT"
  | output => "SELECTED_OUTPUT_OUT"

def react : Selector → Stimulus → Selection → Reaction Selection
  | input => Reaction.inputSelector
  | output => Reaction.outputSelector

/-- A wire is attached to the pin of a channel. -/
def isConnected (w : Selector) (s : Stimulus) (channel : Int) : Bool :=
  match w with
  | input => Circuit.isInputConnected s.moment.wires s.id (.text (pin "SIGNAL_IN_" channel))
  | output => Circuit.isOutputConnected s.moment.wires s.id (.text (pin "SIGNAL_OUT_" channel))

variable {w : Selector} {s : Stimulus} {state : Selection}

theorem react_state (w : Selector) (s : Stimulus) (state : Selection) :
    (w.react s state).state =
      (Reaction.selectorRule s).select (w.isConnected s) state (s.input w.setPin)
        (s.input w.movePin) := by
  cases w <;> rfl

theorem react_value (w : Selector) (s : Stimulus) (state : Selection) :
    (w.react s state).value = .int (w.react s state).state.channel := by
  cases w <;> rfl

theorem react_isChannel (w : Selector) (s : Stimulus) (state : Selection) :
    0 ≤ (w.react s state).state.channel ∧ (w.react s state).state.channel ≤ 9 := by
  rw [react_state]
  exact Rule.select_isChannel ..

/-- What a selector emits while a channel is selected: one lets the signal of the channel through, or a
zero where there is none, the other passes its input on to the channel and to no other one. Both tell
which channel it is. -/
structure Emits (w : Selector) (s : Stimulus) (channel : Int) (out : Pins) : Prop where
  pins : out.map Prod.fst = w.kind.outputPins
  selected : out.read w.selectedPin = .int channel
  forwarded : w = input → out.read "SIGNAL_OUT" =
    if (s.input (pin "SIGNAL_IN_" channel)).isPresent then s.input (pin "SIGNAL_IN_" channel)
    else .int 0
  routed : w = output → ∀ k : Int, 0 ≤ k → k ≤ 9 →
    out.read (pin "SIGNAL_OUT_" k) = if k = channel then s.input "SIGNAL_IN" else .absent

theorem exists_react_outputs (w : Selector) (s : Stimulus) (state : Selection) :
    ∃ out, (w.react s state).outputs = .ok (some out) ∧
      w.Emits s (w.react s state).state.channel out := by
  obtain ⟨low, high⟩ := w.react_isChannel s state
  cases w with
  | input => exact ⟨_, rfl, rfl, rfl, fun _ => rfl, nofun⟩
  | output =>
    refine ⟨_, rfl, rfl, rfl, nofun, fun _ k from0 to9 => ?_⟩
    change Pins.read (_ ++ _) _ = _
    rw [Pins.read_map_append (pin_mem_channelPins "SIGNAL_OUT_" from0 to9)]
    exact if_congr (beq_iff_eq.trans pin_inj) rfl rfl

/-! ## §4 Counting -/

/-- The selector wraps around, passes over no channels and is not set in this tick. -/
structure OnlyMoves (w : Selector) (s : Stimulus) : Prop where
  wraps : (s.settingOr "wrapAround" (.flag true)).truthy = true
  passesNone : (s.setting "skipEmptyConnections").truthy = false
  unset : (s.input w.setPin).wholeReading? = none

/-- The channels by which a signal moves the selection, given the signal of the tick before. -/
def moved (current last : Value) : Int :=
  if IsMoveEdge current last then current.numberOrZero.sign else 0

/-- **Step**: the selection goes on by what the signal moves it. -/
theorem channel_react (state : Selection) (only : w.OnlyMoves s) :
    (w.react s state).state.channel =
      (state.channel + moved (s.input w.movePin) state.lastMove) % 10 := by
  have wraps : (Reaction.selectorRule s).wrapAround = true := only.wraps
  have passesNone : (Reaction.selectorRule s).skipEmpty = false := only.passesNone
  rw [react_state, Rule.select, only.unset, moved]
  dsimp only [Option.getD_none]
  by_cases edge : IsMoveEdge (s.input w.movePin) state.lastMove
  · have oneStep (connected : Int → Bool) (step channel : Int) :
        (Reaction.selectorRule s).move connected step Kind.channels channel =
          (Reaction.selectorRule s).bound (channel + step) := by
      rw [show Kind.channels = 9 + 1 from rfl, Rule.move, passesNone]
      rfl
    rw [if_pos edge, if_pos (isMoveEdge_iff.1 edge), oneStep, Rule.bound_of_wrapAround wraps,
      Rule.bound_of_wrapAround wraps, Int.emod_add_emod]
  · rw [if_neg edge, if_neg (isMoveEdge_iff.not.1 edge), Rule.bound_of_wrapAround wraps,
      Int.add_zero]

section Run

variable {course : Course} (start : Selection)

theorem lastMove_stateAfter (n : ℕ) :
    (stateAfter w.react course start n).lastMove =
      previous start.lastMove (course.signals w.movePin) n := by
  refine kept_stateAfter Selection.lastMove (fun s state => ?_) n
  rw [react_state]
  rfl

/-- The channels by which the selection is moved in tick `i`. -/
def movedIn (w : Selector) (course : Course) (start : Selection) (i : ℕ) : Int :=
  moved (course.signals w.movePin i) (previous start.lastMove (course.signals w.movePin) i)

/-- **Run**: so it goes on by all moves of some ticks. -/
theorem channel_stateAfter {m n : ℕ} (within : m ≤ n)
    (only : ∀ i, m ≤ i → i < n → w.OnlyMoves (course i)) :
    (stateAfter w.react course start n).channel % 10 =
      ((stateAfter w.react course start m).channel +
        ∑ i ∈ Finset.Ico m n, w.movedIn course start i) % 10 := by
  induction n, within using Nat.le_induction with
  | base => rw [Finset.Ico_self, Finset.sum_empty, Int.add_zero]
  | succ n within ih =>
    have earlier := ih fun i above below => only i above (by omega)
    have step := channel_react (stateAfter w.react course start n) (only n within (by omega))
    rw [lastMove_stateAfter start] at step
    change (stateAfter w.react course start (n + 1)).channel = (_ + w.movedIn course start n) % 10
      at step
    rw [Finset.sum_Ico_succ_top within, step]
    omega

/-- A signal that is held moves in the first tick only. -/
theorem sum_movedIn_of_held {m n : ℕ} {v : Value} (within : m < n)
    (moving : v.reading?.any (fun n => !n.isZero) = true)
    (held : ∀ i, m ≤ i → i < n → course.signals w.movePin i = v) :
    ∑ i ∈ Finset.Ico m n, w.movedIn course start i = w.movedIn course start m := by
  refine Finset.sum_eq_single_of_mem m (Finset.mem_Ico.2 ⟨le_rfl, within⟩) fun i member later => ?_
  obtain ⟨above, below⟩ := Finset.mem_Ico.1 member
  refine if_neg (not_isMoveEdge ?_)
  rwa [previous_of_held held (by omega) below]

/-- **Selectors**: after every tick a selector has selected a channel, which is its value, and emits
accordingly. While it wraps around, passes over no channels and is not set, its selection is the first one
and the signs of all moves since, modulo the number of channels; a signal other than zero that is held
moves it once, and not at all if there was another one before. -/
theorem selector_counts_moves (w : Selector) (course : Course) (start : Selection) (n : ℕ) :
    let selected := fun i => (stateAfter w.react course start i).channel
    let turn := w.react (course n) (stateAfter w.react course start n)
    let moves := course.signals w.movePin
    let before := previous start.lastMove moves
    (turn.state.channel = selected (n + 1) ∧ 0 ≤ selected (n + 1) ∧ selected (n + 1) ≤ 9 ∧
        turn.value = .int (selected (n + 1)) ∧
        ∃ out, turn.outputs = .ok (some out) ∧ w.Emits (course n) (selected (n + 1)) out) ∧
      ((∀ i ≤ n, w.OnlyMoves (course i)) →
        selected (n + 1) = (start.channel +
            ∑ i ∈ Finset.range (n + 1) with IsMoveEdge (moves i) (before i),
              (moves i).numberOrZero.sign) % 10 ∧
          ∀ m ≤ n, ∀ v, v.reading?.any (fun x => !x.isZero) = true →
            (∀ i, m ≤ i → i ≤ n → moves i = v) →
              selected (n + 1) = (selected m +
                if (before m).reading?.all Number.isZero then v.numberOrZero.sign else 0) % 10) := by
  intro selected turn moves before
  obtain ⟨low, high⟩ := w.react_isChannel (course n) (stateAfter w.react course start n)
  have range : selected (n + 1) = selected (n + 1) % 10 :=
    (Int.emod_eq_of_lt low (Int.lt_of_le_of_lt high (by decide))).symm
  refine ⟨⟨rfl, low, high, w.react_value _ _, w.exists_react_outputs _ _⟩, fun only => ⟨?_, ?_⟩⟩
  · rw [range, Finset.sum_filter, Finset.range_eq_Ico]
    exact channel_stateAfter start (Nat.zero_le _) fun i _ below => only i (by omega)
  · intro m within v moving held
    have first : w.movedIn course start m =
        if (before m).reading?.all Number.isZero then v.numberOrZero.sign else 0 := by
      unfold movedIn moved IsMoveEdge
      rw [show course.signals w.movePin m = v from held m le_rfl within]
      exact if_congr (and_iff_right moving) rfl rfl
    have since := channel_stateAfter start (Nat.le_succ_of_le within) fun i _ below =>
      only i (Nat.lt_succ_iff.1 below)
    rw [sum_movedIn_of_held start (Nat.lt_succ_of_le within) moving fun i above below =>
      held i above (Nat.lt_succ_iff.1 below), first] at since
    rw [range]
    exact since

end Run

/-- A selection far off the channels, which the text of a number moves twice: in the first tick and, after
a zero, in the fourth. -/
theorem selector_counts_moves_of_text :
    let course := Course.ofInputs [] fun i => [("MOVE_OUTPUT", if i = 2 then .int 0 else .text " 5")]
    let start : Selection := ⟨-13, .absent⟩
    (∀ i ≤ 4, output.OnlyMoves (course i)) ∧ (stateAfter output.react course start 5).channel = 9 := by
  intro course start
  have only : ∀ i ≤ 4, output.OnlyMoves (course i) := fun i _ => ⟨rfl, rfl, rfl⟩
  refine ⟨only, ((selector_counts_moves output course start 4).2 only).1.trans ?_⟩
  decide +kernel

end Selector

end TickCircuit

import TickCircuit.Proofs.Number.Sums
import TickCircuit.Proofs.Reaction.Courses
import TickCircuit.Proofs.Reaction.Recording

/-!
# Gates that Vote

A gate with a time window takes a vote in every tick: the outcomes of its test in the ticks that its history
retains are counted, and the gate is open when more than half of them are passes (`gate_votes`). The gate itself
compares the mean of zeros and ones with one half; both sums and the division are rounded, but not so that the
comparison would notice, as long as the limit of the history takes fewer than 54 bits.
-/

namespace TickCircuit

namespace Reaction

open Gate

/-! ## §1 Five Tests -/

/-- The kinds that test two signals and may have a time window. -/
def gateKinds : List Kind := [.equals, .and, .or, .xor, .greater]

/-- The test of such a kind. -/
def test (s : Stimulus) : Kind → Value → Value → Bool
  | .equals => Gate.equals (s.setting "tolerance")
  | .and => both
  | .or => either
  | .xor => exactlyOne
  | .greater => greater
  | _ => fun _ _ => false

/-- The test of a gate is passed. -/
def passes (k : Kind) (s : Stimulus) : Bool := test s k (first s) (second s)

/-! ## §2 Voting -/

variable {course : Course} {seconds : Number} {n limit : ℕ}

/-- The times of the ticks of a course. -/
def times (course : Course) (i : ℕ) : Float := (course i).moment.now

/-- **Run**: the history of a gate holds its outcomes. -/
theorem gate_stateAfter (k : Kind) (window : ∀ i < n,
      Arithmetic.window? ((course i).setting "timeFrame") = some seconds) :
    stateAfter (fun s h => gate s h (test s k)) course (.empty limit) n =
      History.recorded limit (fun i => .ofFlag (passes k (course i))) (times course) seconds n := by
  induction n with
  | zero => rfl
  | succ n ih =>
    rw [stateAfter, ih fun i below => window i (by omega), gate_state_of_window (window n n.lt_succ_self)]
    rfl

/-- The sum of the outcomes is how many passes there are. -/
theorem sum_map_toNat (outcome : ℕ → Bool) (ticks : List ℕ) :
    (ticks.map fun i => (outcome i).toNat).sum = ticks.countP outcome := by
  induction ticks with
  | nil => rfl
  | cons i ticks ih =>
    rw [List.map_cons, List.sum_cons, List.countP_cons, ih, Nat.add_comm]
    cases outcome i <;> rfl

/-- The mean of outcomes exceeds the threshold when more than half of them are passes. -/
theorem threshold_lt_mean_iff (outcome : ℕ → Bool) {ticks : List ℕ} (nonempty : 0 < ticks.length)
    (few : ticks.length < 2 ^ 53) :
    threshold < Mean.mean (ticks.map fun i => Binary.ofInt (outcome i).toNat) ↔
      ticks.length < 2 * ticks.countP outcome := by
  have each : List.Forall₂ Mean.IsNat (ticks.map fun i => Binary.ofInt (outcome i).toNat)
      (ticks.map fun i => (outcome i).toNat) := by
    rw [List.forall₂_map_left_iff, List.forall₂_map_right_iff, List.forall₂_same]
    exact fun i _ => Mean.isNat_ofInt ((Bool.toNat_le _).trans_lt (by norm_num))
  have length : (ticks.map fun i => Binary.ofInt (outcome i).toNat).length = ticks.length :=
    List.length_map _
  have half := Mean.half_lt_mean_iff each (length ▸ nonempty) (length ▸ few)
    (by rw [sum_map_toNat, length]; exact List.countP_le_length)
  rwa [sum_map_toNat, length] at half

/-- A gate with a time window compares the mean of the window with the threshold. -/
theorem gate_outputs_of_window {s : Stimulus} {seconds : Number}
    (given : Arithmetic.window? (s.setting "timeFrame") = some seconds) {history : History}
    {test : Value → Value → Bool} {mean : Float}
    (computed : (history.windowedMean (.ofFlag (test (first s) (second s))) (.real s.moment.now) seconds).1 =
      .ok mean) :
    (gate s history test).outputs = .ok (some [("SIGNAL_OUT", gateText s (threshold < mean))]) := by
  unfold gate smoothed
  rw [given]
  dsimp only
  rw [computed]
  rfl

/-- **Step**: the gate emits what the vote on the retained ticks says. -/
theorem gate_outputs (k : Kind) (least : 1 ≤ limit) (most : limit < 2 ^ 53)
    (window : ∀ i ≤ n, Arithmetic.window? ((course i).setting "timeFrame") = some seconds)
    (advancing : History.Advancing (times course) seconds n) :
    let retained := History.retained limit (times course) seconds n
    (gate (course n) (stateAfter (fun s h => gate s h (test s k)) course (.empty limit) n)
        (test (course n) k)).outputs =
      .ok (some [("SIGNAL_OUT", gateText (course n)
        (retained.length < 2 * retained.countP fun i => passes k (course i)))]) := by
  intro retained
  have positive := Arithmetic.lt_of_window? (window n le_rfl)
  -- the tick itself is retained, so there is a vote
  have nonempty : 0 < retained.length := List.length_pos_of_mem (History.mem_retained least positive)
  have few : retained.length < 2 ^ 53 := (History.length_retained_le advancing).trans_lt most
  have mean := History.mean_recorded limit advancing
    fun i _ => Value.toFloat_ofFlag (passes k (course i))
  -- the history of the gate is that of a run of calls, whose last mean is known
  rw [← gate_stateAfter k fun i below => window i below.le] at mean
  rw [gate_outputs_of_window (window n le_rfl) mean,
    decide_eq_decide.2 (threshold_lt_mean_iff (fun i => passes k (course i)) nonempty few)]

end Reaction

end TickCircuit

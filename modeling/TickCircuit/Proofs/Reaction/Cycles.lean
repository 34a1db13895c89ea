import TickCircuit.Proofs.Number.Decimals
import TickCircuit.Proofs.Outcome
import TickCircuit.Proofs.Reaction.Courses

/-!
# Oscillators over Many Ticks

The phase of an oscillator depends on its frequencies and the lengths of its ticks alone, not on its waves
(`phase_congr`). It never decreases, since a step is not negative and what has been rounded once is not
rounded to less (`le_advance`). So a pulse, which is emitted when the number of completed cycles changes, is
emitted when this number increases, and in a stretch of ticks there are at most as many pulses as cycles are
completed (`card_ones_le`).
-/

namespace TickCircuit

namespace Binary

open Float.Model Float.Model.UnpackedFloat

variable {x d : Float} {a : ℤ}

/-! ## §1 Steps -/

/-- Adding what is not negative does not lead downwards. -/
theorem le_add_of_nonneg (value : exactValue? x = some (.units a)) (nonneg : 0.0 ≤ d) : x ≤ x + d := by
  obtain ⟨w, valueD, above⟩ := nonneg_iff.1 nonneg
  rw [le_iff]
  -- an infinite step leads to infinity, and a finite sum is rounded to no less than `x`, which is on the grid
  rcases value_cases valueD with ⟨s, form, sign⟩ | ⟨b, rfl⟩
  · have upwards : s = .positive := sign_of_nonneg above sign
    subst upwards
    exact ⟨_, _, value, exactValue?_add_infinity value form, le_top⟩
  · obtain ⟨onGrid, inRange⟩ := onGrid_of_exactValue? value
    obtain ⟨r, nearest, sum⟩ := roundsTo_add value valueD
    have step : (0 : ℚ) ≤ b := by exact_mod_cast Exact.units_le.1 above
    have rounded := packedValue_mono (nearest.ge onGrid (le_add_of_nonneg_right step))
    rw [packedValue_of_lt inRange] at rounded
    exact ⟨_, _, value, sum, rounded⟩

/-- Milliseconds that are not negative are no negative seconds. -/
theorem div_thousand_nonneg (nonneg : 0.0 ≤ x) : 0.0 ≤ x / 1000.0 := by
  have thousand : exactValue? 1000.0 = some (.units (8796093022208000 * 2 ^ 1031)) := by rfl
  obtain ⟨w, valueX, above⟩ := nonneg_iff.1 nonneg
  rw [nonneg_iff]
  rcases value_cases valueX with ⟨s, form, sign⟩ | ⟨b, rfl⟩
  · have upwards : s = .positive := sign_of_nonneg above sign
    subst upwards
    refine ⟨⊤, ?_, le_top⟩
    have quotient : exactValue? (x / 1000.0) = exactValue? (.ofModel (.pack (UnpackedFloat.div .binary64
      (.infinity .positive) (1000.0 : Float).toModel.unpack))) := by rw [← form]; rfl
    rw [quotient]
    rfl
  · have pos : (0 : ℤ) < 8796093022208000 * 2 ^ 1031 := mul_pos (by norm_num) (pow_pos two_pos _)
    -- rounding keeps what is not negative on its side of zero
    obtain ⟨r, nearest, value⟩ := roundsTo_div valueX thousand pos.ne'
    have quotient : ((0 : ℤ) : ℚ) ≤ b * 2 ^ 1074 / (8796093022208000 * 2 ^ 1031 : ℤ) := by
      have first : (0 : ℚ) ≤ b := by exact_mod_cast Exact.units_le.1 above
      rw [Int.cast_zero]
      exact div_nonneg (mul_nonneg first (pow_nonneg zero_le_two _)) (by exact_mod_cast pos.le)
    have rounded := packedValue_mono (nearest.ge onGrid_zero quotient)
    rw [packedValue_zero] at rounded
    exact ⟨_, value, rounded⟩

/-- What is not finite is not rounded to something finite. -/
theorem isFinite_of_roundFloat {places : ℕ} (finite : (Number.roundFloat x places).isFinite = true) :
    x.isFinite = true := by
  have unpacked : x.isFinite = x.toModel.unpack.isFinite := rfl
  unfold Number.roundFloat at finite
  split at finite
  · exact finite
  split at finite
  · next form =>
    rw [unpacked, form]
    rfl
  · exact finite

end Binary

/-! ## §2 One Tick -/

namespace Oscillation

open Binary

/-- What is held within the bounds of frequencies is not negative. -/
theorem clamped_nonneg {n : Number} {u : Exact} (value : n.exactValue? = some u) :
    0.0 ≤ (n.clamp (some (.real minFrequency)) (some (.real maxFrequency))).toFloat := by
  have most : (Number.real maxFrequency).exactValue? = some (.units (5629499534213120 * 2 ^ 1025)) := by rfl
  have least : (Number.real minFrequency).exactValue? = some (.units (7205759403792794 * 2 ^ 1018)) := by rfl
  refine Number.zero_le_toFloat (Number.exactValue?_max least (Number.exactValue?_min most value))
    (le_max_of_le_left (Exact.units_le.2 ?_))
  exact mul_nonneg (by norm_num) (pow_nonneg zero_le_two _)

/-- No frequency is negative, and none is a NaN. -/
theorem frequency_nonneg (override setting : Value) : 0.0 ≤ frequency override setting := by
  unfold frequency
  dsimp only
  generalize (if override.isPresent then _ else _) = asked
  cases asked with
  | none => exact clamped_nonneg rfl
  | some n =>
    dsimp only
    split
    · next finite =>
      have float : n.toFloat.isFinite = true := by cases n <;> exact finite
      obtain ⟨a, value⟩ := isFinite_iff.1 float
      exact clamped_nonneg value
    · exact clamped_nonneg rfl

/-- The number of cycles that a finite phase has completed. -/
def completed (phase : Float) : ℤ := (floor? phase).getD 0

/-- A phase that is reached: it has been rounded, and is a number of units that is not negative. -/
structure IsPhase (phase : Float) (n : ℕ) : Prop where
  rounded : IsDecimal phase
  value : exactValue? phase = some (.units n)

theorem isPhase_zero : IsPhase 0.0 0 := ⟨isDecimal_zero, rfl⟩

variable {phase before after interval : Float} {m n : ℕ}

theorem IsPhase.le (first : IsPhase before m) (second : IsPhase after n) (le : m ≤ n) : before ≤ after :=
  le_iff.2 ⟨_, _, first.value, second.value, Exact.units_le.2 (by exact_mod_cast le)⟩

theorem IsPhase.completed_eq (isPhase : IsPhase phase n) : completed phase = n / 2 ^ 1074 := by
  rw [completed, floor?_of_units isPhase.value, Option.getD_some]

theorem IsPhase.completed_le (first : IsPhase before m) (second : IsPhase after n) (le : m ≤ n) :
    completed before ≤ completed after := by
  rw [first.completed_eq, second.completed_eq]
  exact Int.ediv_le_ediv (pow_pos two_pos _) (by exact_mod_cast le)

theorem IsPhase.cycles_eq (isPhase : IsPhase phase n) : cycles phase = .ok (completed phase) := by
  rw [cycles, completed, floor?_of_units isPhase.value]
  rfl

/-- **Step**: a phase leads to a phase that is not less, if it leads to a finite one. -/
theorem IsPhase.advance {override setting : Value} (isPhase : IsPhase phase n) (positive : 0.0 < interval)
    (lasting : interval.isFinite = true)
    (finite : (advance phase (frequency override setting) interval).isFinite = true) :
    ∃ m, n ≤ m ∧ IsPhase (Oscillation.advance phase (frequency override setting) interval) m := by
  obtain ⟨b, valueI⟩ := isFinite_iff.1 lasting
  obtain ⟨u, valueI', above⟩ := zero_lt_iff.1 positive
  cases valueI.symm.trans valueI'
  have step : 0.0 ≤ frequency override setting * interval / 1000.0 :=
    div_thousand_nonneg (Binary.mul_nonneg (frequency_nonneg _ _) valueI (Exact.units_lt.1 above))
  -- the sum is finite and not less than the phase, and so is what it is rounded to
  obtain ⟨c, valueS⟩ := isFinite_iff.1 (isFinite_of_roundFloat finite)
  obtain ⟨v, w, valueP, valueS', order⟩ := le_iff.1 (le_add_of_nonneg isPhase.value step)
  cases isPhase.value.symm.trans valueP
  cases valueS.symm.trans valueS'
  obtain ⟨k, rfl⟩ := Int.eq_ofNat_of_zero_le ((Int.natCast_nonneg n).trans (Exact.units_le.1 order))
  have le : n ≤ k := by exact_mod_cast Exact.units_le.1 order
  obtain ⟨d, valueA⟩ := isFinite_iff.1 finite
  obtain ⟨v, w, valueP', valueA', order'⟩ := le_iff.1 (isPhase.rounded.le_roundFloat isPhase.value valueS le)
  cases isPhase.value.symm.trans valueP'
  cases valueA.symm.trans valueA'
  obtain ⟨m, rfl⟩ := Int.eq_ofNat_of_zero_le ((Int.natCast_nonneg n).trans (Exact.units_le.1 order'))
  exact ⟨m, by exact_mod_cast Exact.units_le.1 order', isDecimal_roundFloat valueS, valueA⟩

/-- A pulse is emitted when a cycle is completed. -/
theorem emit_pulse (first : IsPhase before m) (second : IsPhase after n) (le : m ≤ n) :
    emit .pulse before after =
      .ok (.int (if completed before < completed after then 1 else 0)) := by
  rw [emit, second.cycles_eq, first.cycles_eq]
  -- cycles never become fewer, so a change is an increase
  have changed : (completed after != completed before) = true ↔ completed before < completed after := by
    rw [bne_iff_ne, ne_comm]
    exact (lt_iff_le_and_ne.trans (and_iff_right (first.completed_le second le))).symm
  change Except.ok (Value.int (if (completed after != completed before) = true then 1 else 0)) = _
  exact congrArg (fun n => Except.ok (Value.int n)) (if_congr changed rfl rfl)

end Oscillation

/-! ## §3 Runs -/

namespace Oscillation

section Runs

variable (course : Course) (start : Float)

/-- The phase after some ticks. -/
abbrev phase (n : ℕ) : Float := Reaction.stateAfter Reaction.oscillator course start n

/-- The ticks last for positive and finite times, and the phase stays finite. -/
structure Proceeds (n : ℕ) : Prop where
  positive : ∀ i < n, 0.0 < (course i).moment.interval
  lasting : ∀ i < n, (course i).moment.interval.isFinite = true
  finite : ∀ i ≤ n, (phase course start i).isFinite = true

/-- The wave in a tick. -/
def waveIn (i : ℕ) : Wave := wave (course.signals "SET_OUTPUTTYPE" i) ((course i).setting "outputType")

/-- What is emitted in a tick. -/
def emitted (i : ℕ) : Value :=
  match (Reaction.oscillator (course i) (phase course start i)).outputs with
  | .ok out => (out.getD []).read "SIGNAL_OUT"
  | .error _ => .absent

/-- The ticks from tick `l` on, up to tick `m`, in which a one is emitted. -/
def ones (l m : ℕ) : Finset ℕ := {i ∈ Finset.Ico l m | (emitted course start i).same (.int 1) = true}

end Runs

variable {course course' : Course} {start start' : Float} {settings settings' : Record}

/-- **Step**: the phase moves on by the frequency, whatever is emitted. -/
theorem phase_succ (n : ℕ) :
    phase course start (n + 1) = advance (phase course start n)
      (frequency (course.signals "SET_FREQUENCY" n) ((course n).setting "frequency"))
      (course n).moment.interval := by
  change (Reaction.oscillator (course n) (phase course start n)).state = _
  unfold Reaction.oscillator
  dsimp only
  split <;> rfl

/-- **Run**: the same frequencies and lengths of ticks lead to the same phases. -/
theorem phase_congr {n : ℕ}
    (inputs : ∀ i < n, course.signals "SET_FREQUENCY" i = course'.signals "SET_FREQUENCY" i)
    (set : ∀ i < n, (course i).setting "frequency" = (course' i).setting "frequency")
    (intervals : ∀ i < n, (course i).moment.interval = (course' i).moment.interval) :
    phase course start n = phase course' start n := by
  induction n with
  | zero => rfl
  | succ n ih =>
    have earlier := ih (fun i below => inputs i (Nat.lt_succ_of_lt below))
      (fun i below => set i (Nat.lt_succ_of_lt below))
      fun i below => intervals i (Nat.lt_succ_of_lt below)
    have last := n.lt_succ_self
    rw [phase_succ, phase_succ, earlier, inputs n last, set n last, intervals n last]

/-- **Step**: a phase that stays finite is followed by one that is not less. -/
theorem exists_isPhase_advanced (proceeds : Proceeds course start n) {i m : ℕ} (within : i < n)
    (isPhase : IsPhase (phase course start i) m) :
    ∃ k, m ≤ k ∧ IsPhase (phase course start (i + 1)) k := by
  have finite := proceeds.finite (i + 1) within
  rw [phase_succ] at finite ⊢
  exact isPhase.advance (proceeds.positive i within) (proceeds.lasting i within) finite

/-- **Run**: all phases are reached. -/
theorem exists_isPhase (starts : Shape.oscillator.initial settings = .ok start)
    (proceeds : Proceeds course start n) {i : ℕ} (within : i ≤ n) : ∃ m, IsPhase (phase course start i) m := by
  induction i with
  | zero =>
    cases starts
    exact ⟨0, isPhase_zero⟩
  | succ i ih =>
    obtain ⟨m, isPhase⟩ := ih (Nat.le_of_succ_le within)
    obtain ⟨k, -, next⟩ := exists_isPhase_advanced proceeds within isPhase
    exact ⟨k, next⟩

theorem exists_isPhase_succ (starts : Shape.oscillator.initial settings = .ok start)
    (proceeds : Proceeds course start n) {i : ℕ} (within : i < n) :
    ∃ m k, m ≤ k ∧ IsPhase (phase course start i) m ∧ IsPhase (phase course start (i + 1)) k := by
  obtain ⟨m, isPhase⟩ := exists_isPhase starts proceeds within.le
  obtain ⟨k, le, next⟩ := exists_isPhase_advanced proceeds within isPhase
  exact ⟨m, k, le, isPhase, next⟩

/-- **Run**: the phase never decreases. -/
theorem phase_le (starts : Shape.oscillator.initial settings = .ok start) (proceeds : Proceeds course start n)
    {i j : ℕ} (le : i ≤ j) (within : j ≤ n) : phase course start i ≤ phase course start j := by
  induction j, le using Nat.le_induction with
  | base =>
    obtain ⟨m, isPhase⟩ := exists_isPhase starts proceeds within
    exact isPhase.le isPhase le_rfl
  | succ j le ih =>
    obtain ⟨m, k, step, first, second⟩ := exists_isPhase_succ starts proceeds within
    exact Binary.le_trans (ih (Nat.le_of_succ_le within)) (first.le second step)

theorem completed_le_succ (starts : Shape.oscillator.initial settings = .ok start)
    (proceeds : Proceeds course start n) {i : ℕ} (within : i < n) :
    completed (phase course start i) ≤ completed (phase course start (i + 1)) := by
  obtain ⟨m, k, step, first, second⟩ := exists_isPhase_succ starts proceeds within
  exact first.completed_le second step

/-- **Step**: a pulse is a one in the ticks that complete a cycle, and a zero in the others. -/
theorem outputs_of_pulse (starts : Shape.oscillator.initial settings = .ok start)
    (proceeds : Proceeds course start n) {i : ℕ} (within : i < n) (pulse : waveIn course i = .pulse) :
    (Reaction.oscillator (course i) (phase course start i)).outputs =
      .ok (some [("SIGNAL_OUT", .int
        (if completed (phase course start i) < completed (phase course start (i + 1)) then 1 else 0))]) := by
  obtain ⟨m, k, step, first, second⟩ := exists_isPhase_succ starts proceeds within
  have emits := emit_pulse first second step
  rw [phase_succ] at emits ⊢
  have mode : wave ((course i).input "SET_OUTPUTTYPE") ((course i).setting "outputType") = .pulse := pulse
  unfold Reaction.oscillator
  dsimp only
  rw [mode]
  unfold Course.signals at emits ⊢
  rw [emits]
  rfl

theorem one_iff (starts : Shape.oscillator.initial settings = .ok start)
    (proceeds : Proceeds course start n) {i : ℕ} (within : i < n) (pulse : waveIn course i = .pulse) :
    (emitted course start i).same (.int 1) = true ↔
      completed (phase course start i) < completed (phase course start (i + 1)) := by
  rw [emitted, outputs_of_pulse starts proceeds within pulse]
  by_cases less : completed (phase course start i) < completed (phase course start (i + 1))
  · rw [if_pos less]
    exact iff_of_true rfl less
  · rw [if_neg less]
    exact iff_of_false Bool.false_ne_true less

/-- **Run**: in a stretch of pulses there are as many ones as ticks that complete cycles. -/
theorem card_ones (starts : Shape.oscillator.initial settings = .ok start)
    (proceeds : Proceeds course start n) {l m : ℕ} (le : l ≤ m) (within : m ≤ n)
    (pulses : ∀ i, l ≤ i → i < m → waveIn course i = .pulse) :
    ((ones course start l m).card : ℤ) ≤
        completed (phase course start m) - completed (phase course start l) ∧
      ((∀ i, l ≤ i → i < m →
          completed (phase course start (i + 1)) ≤ completed (phase course start i) + 1) →
        ((ones course start l m).card : ℤ) =
          completed (phase course start m) - completed (phase course start l)) := by
  induction m, le using Nat.le_induction with
  | base => simp [ones]
  | succ m le ih =>
    obtain ⟨most, exact⟩ := ih (Nat.le_of_succ_le within) fun i above below =>
      pulses i above (Nat.lt_succ_of_lt below)
    have step := completed_le_succ starts proceeds within
    have one := one_iff starts proceeds within (pulses m le m.lt_succ_self)
    -- the tick adds a one if it completes cycles, and it completes one of them if it is slow
    rw [ones, card_ticks_succ le, ← ones]
    split
    · next fires =>
      have rises := one.1 fires
      push_cast
      refine ⟨by omega, fun slow => ?_⟩
      have earlier := exact fun i above below => slow i above (Nat.lt_succ_of_lt below)
      have last := slow m le m.lt_succ_self
      omega
    · next silent =>
      have rests := mt one.2 silent
      refine ⟨by omega, fun slow => ?_⟩
      have earlier := exact fun i above below => slow i above (Nat.lt_succ_of_lt below)
      omega

/-- **Oscillators**: consider a run from the initial state in which ticks last for positive and finite times
and the phase stays finite. Any run with the same frequencies and lengths of ticks goes through the same
phases, whatever its waves are. The phase never decreases. A pulse is a one in the ticks that complete a
cycle, and a zero in all others. So in a stretch of pulses there are no more ones than cycles are completed,
and just as many if no tick completes more than one. -/
theorem pulses_count_cycles (starts : Shape.oscillator.initial settings = .ok start)
    (proceeds : Proceeds course start n) :
    let phases := phase course start
    (∀ (course' : Course) (start' : Float) (settings' : Record),
        Shape.oscillator.initial settings' = .ok start' →
        (∀ i < n, course'.signals "SET_FREQUENCY" i = course.signals "SET_FREQUENCY" i ∧
          (course' i).setting "frequency" = (course i).setting "frequency" ∧
          (course' i).moment.interval = (course i).moment.interval) →
        ∀ i ≤ n, phase course' start' i = phases i) ∧
      (∀ i j, i ≤ j → j ≤ n → phases i ≤ phases j) ∧
      (∀ i < n, waveIn course i = .pulse →
        (Reaction.oscillator (course i) (phases i)).outputs = .ok (some [("SIGNAL_OUT", .int
          (if completed (phases i) < completed (phases (i + 1)) then 1 else 0))])) ∧
      ∀ l m, l ≤ m → m ≤ n → (∀ i, l ≤ i → i < m → waveIn course i = .pulse) →
        ((ones course start l m).card : ℤ) ≤ completed (phases m) - completed (phases l) ∧
          ((∀ i, l ≤ i → i < m → completed (phases (i + 1)) ≤ completed (phases i) + 1) →
            ((ones course start l m).card : ℤ) = completed (phases m) - completed (phases l)) := by
  intro phases
  refine ⟨fun course' start' settings' starts' same i le => ?_, fun i j le within => ?_,
    fun i within pulse => ?_, fun l m le within pulses => ?_⟩
  · cases starts
    cases starts'
    exact phase_congr (fun j below => (same j (below.trans_le le)).1)
      (fun j below => (same j (below.trans_le le)).2.1) fun j below => (same j (below.trans_le le)).2.2
  · exact phase_le starts proceeds le within
  · exact outputs_of_pulse starts proceeds within pulse
  · exact card_ones starts proceeds le within pulses

/-- In ten ticks of a tenth of a second at three cycles a second three cycles are completed, and three ones
are emitted; as a sawtooth the oscillator goes through the same phases. -/
theorem pulses_count_cycles_of_ten_ticks :
    let course := Course.ofInputs [("frequency", .text "3")] fun _ => []
    let sawtooths := Course.ofInputs [("frequency", .text "3"), ("outputType", .int 1)] fun _ => []
    (∀ i ≤ 10, phase sawtooths 0.0 i = phase course 0.0 i) ∧
      (ones course 0.0 0 10).card = 3 ∧ completed (phase course 0.0 10) = 3 := by
  intro course sawtooths
  have starts : Shape.oscillator.initial [] = .ok 0.0 := rfl
  have proceeds : Proceeds course 0.0 10 := ⟨by decide +kernel, by decide +kernel, by decide +kernel⟩
  obtain ⟨same, -, -, count⟩ := pulses_count_cycles starts proceeds
  have none : completed (phase course 0.0 0) = 0 := by decide +kernel
  have cycles : completed (phase course 0.0 10) = 3 := by decide +kernel
  have slow : ∀ i < 10, completed (phase course 0.0 (i + 1)) ≤ completed (phase course 0.0 i) + 1 := by
    decide +kernel
  have pulses := (count 0 10 (by decide) le_rfl (fun i _ _ => rfl)).2 fun i _ below => slow i below
  refine ⟨same sawtooths 0.0 [] rfl fun i _ => ⟨rfl, rfl, rfl⟩, ?_, cycles⟩
  rw [cycles, none, sub_zero] at pulses
  exact_mod_cast pulses

end Oscillation

end TickCircuit

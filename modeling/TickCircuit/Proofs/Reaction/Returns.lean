import TickCircuit.Proofs.Outcome
import TickCircuit.Proofs.Pattern.Faults
import TickCircuit.Proofs.Reaction.Reached

/-!
# Which Reactions Return

A reaction of nearly every kind returns, whatever the settings and the signals are, in every state that
is reached. Three kinds can be asked for too much: a random component for a draw beyond 64 bits or
for a seed from an id that is no text, a pattern for a repeat count that is too large, and an
oscillator for a phase beyond the range of `Float`. `Overtaxed` says when this is so, and it is exactly
then that a reaction ends in a fault (`outputs_ok_iff`). Neither the length of a whole number that is
written as a text nor the depth of an expression is limited here.
-/

namespace TickCircuit

/-! ## §1 Oscillators -/

theorem Binary.exists_floor?_iff {x : Float} : (∃ n, floor? x = some n) ↔ x.isFinite = true := by
  have unpacked : x.isFinite = x.toModel.unpack.isFinite := rfl
  unfold floor?
  rw [unpacked]
  cases x.toModel.unpack with
  | zero s => exact iff_of_true ⟨_, rfl⟩ rfl
  | finite s m e pos => exact iff_of_true ⟨_, rfl⟩ rfl
  | _ => exact iff_of_false (by rintro ⟨n, whole⟩; cases whole) Bool.false_ne_true

namespace Oscillation

theorem exists_cycles_iff {phase : Float} :
    (∃ n, cycles phase = .ok n) ↔ phase.isFinite = true := by
  rw [← Binary.exists_floor?_iff]
  unfold cycles
  cases Binary.floor? phase <;> simp

/-- A sample can be taken between two finite phases. -/
theorem exists_emit_iff {w : Wave} {before after : Float} :
    (∃ v, emit w before after = .ok v) ↔ before.isFinite = true ∧ after.isFinite = true := by
  rw [← exists_cycles_iff, ← exists_cycles_iff]
  unfold emit
  constructor
  · rintro ⟨v, h⟩
    obtain ⟨n, atEnd, h⟩ := Outcome.bind_eq_ok.1 h
    obtain ⟨m, atStart, -⟩ := Outcome.bind_eq_ok.1 h
    exact ⟨⟨m, atStart⟩, ⟨n, atEnd⟩⟩
  · rintro ⟨⟨m, atStart⟩, ⟨n, atEnd⟩⟩
    rw [atStart, atEnd]
    exact ⟨_, rfl⟩

end Oscillation

/-! ## §2 Draws -/

namespace Dice

/-- There is no generator yet, and none can be seeded with the id. -/
def CannotSeed (d : Dice) (run : Option Nat) (id : Value) : Prop :=
  d.generator = none ∧ run.isSome = true ∧ ∀ name, id ≠ .text name

/-- A draw is due between bounds of which one is beyond 64 bits. -/
def CannotDraw (d : Dice) (rule : Rule) (interval now : Float) : Prop :=
  d.isDue (rule.periodOr interval) now = true ∧
    (Random.Generator.holdsBound rule.bounds.1 = false ∨
      Random.Generator.holdsBound rule.bounds.2 = false)

theorem exists_seed_iff {run : Option Nat} {id : Value} :
    (∃ words, seed run id = .ok words) ↔ ¬ (run.isSome = true ∧ ∀ name, id ≠ .text name) := by
  cases run with
  | none => simp [seed]
  | some n => cases id <;> simp [seed]

theorem roll_ok_iff {d : Dice} {rule : Rule} {run : Option Nat} {id : Value} {interval now : Float} :
    (d.roll rule run id interval now).1 = .ok () ↔
      ¬ (d.CannotSeed run id ∨ d.CannotDraw rule interval now) := by
  have drawn (g : Random.Generator) (low high : Int) (e : Dice) :
      (e.draw g low high now).1 = .ok () ↔
        ¬ (Random.Generator.holdsBound low = false ∨ Random.Generator.holdsBound high = false) := by
    unfold draw
    cases Random.Generator.holdsBound low <;> cases Random.Generator.holdsBound high <;> simp
  -- Once there is a generator, only a draw that is due can fail.
  have withGenerator (g : Random.Generator) :
      (if ({ d with generator := some g } : Dice).isDue (rule.periodOr interval) now then
        ({ d with generator := some g } : Dice).draw g rule.bounds.1 rule.bounds.2 now
      else (.ok (), { d with generator := some g })).1 = .ok () ↔
        ¬ d.CannotDraw rule interval now := by
    have due : ({ d with generator := some g } : Dice).isDue (rule.periodOr interval) now =
        d.isDue (rule.periodOr interval) now := rfl
    rw [due, CannotDraw]
    cases d.isDue (rule.periodOr interval) now with
    | true => rw [if_pos rfl, drawn]; simp
    | false => simp
  unfold roll
  -- without a generator one is made first, and this takes a seed
  rcases held : d.generator with _ | g
  · by_cases unseeded : run.isSome = true ∧ ∀ name, id ≠ .text name
    · have failed : ¬ ∃ words, seed run id = .ok words := by
        rw [exists_seed_iff]
        exact not_not_intro unseeded
      rcases result : seed run id with e | words
      · simp [CannotSeed, held, Except.map, unseeded]
      · exact absurd ⟨words, result⟩ failed
    · obtain ⟨words, result⟩ := exists_seed_iff.2 unseeded
      have seeded : ¬ d.CannotSeed run id := fun h => unseeded h.2
      rw [result, or_iff_right seeded, ← withGenerator (Random.Generator.ofSeed words)]
      rfl
  · have seeded : ¬ d.CannotSeed run id := fun h => by simp [CannotSeed, held] at h
    rw [or_iff_right seeded, ← withGenerator g]

end Dice

/-! ## §3 Patterns -/

namespace Matching.Rule

/-- The expression is no pattern for having a repeat count that is too large. -/
def CountsTooFar (expression : String) : Prop :=
  Pattern.compile expression = .error .hugeRepeat ∨
    Pattern.compile expression = .error .tooManyDigits

/-- So it has a row of digits that is too large for a count. -/
theorem CountsTooFar.hasLargeCount {expression : String} (h : CountsTooFar expression) :
    Pattern.HasLargeCount expression.toList := by
  rcases h with h | h
  · rcases Pattern.compile_fault h with other | ⟨-, large⟩
    · cases other
    · exact large
  · rcases Pattern.compile_fault h with other | ⟨-, large⟩
    · cases other
    · exact large

theorem exists_evaluate_iff {r : Rule} {signal : Value} :
    (∃ v, r.evaluate signal = .ok v) ↔
      ¬ (Blank.trim r.expressionText ≠ "" ∧ CountsTooFar r.expressionText) := by
  unfold evaluate
  dsimp only
  by_cases blank : Blank.trim r.expressionText = ""
  · rw [blank, if_pos (by decide)]
    exact iff_of_true ⟨_, rfl⟩ fun h => h.1 rfl
  · rw [if_neg (by simpa using blank)]
    cases compiled : Pattern.compile r.expressionText with
    | ok p =>
      have never : ¬ CountsTooFar r.expressionText := by simp [CountsTooFar, compiled]
      refine iff_of_true ?_ fun h => never h.2
      dsimp only
      split <;> exact ⟨_, rfl⟩
    | error e =>
      -- A text that is no pattern is caught; what is left are the counts.
      rcases Pattern.compile_fault compiled with rfl | ⟨rfl | rfl, -⟩
      · have never : ¬ CountsTooFar r.expressionText := by simp [CountsTooFar, compiled]
        exact iff_of_true ⟨_, rfl⟩ fun h => never h.2
      · exact iff_of_false (fun ⟨_, h⟩ => nomatch h) (not_not_intro ⟨blank, .inl compiled⟩)
      · exact iff_of_false (fun ⟨_, h⟩ => nomatch h) (not_not_intro ⟨blank, .inr compiled⟩)

theorem exists_emit_iff (r : Rule) (last signal : Value) :
    (∃ v, r.emit last signal = .ok v) ↔
      ¬ (signal.isPresent = true ∧ Blank.trim r.expressionText ≠ "" ∧
        CountsTooFar r.expressionText) := by
  unfold emit
  dsimp only
  cases signal.isPresent with
  | true =>
    have kept : (∃ v, r.evaluate signal = .ok v) ↔
        ¬ (true = true ∧ Blank.trim r.expressionText ≠ "" ∧ CountsTooFar r.expressionText) := by
      simpa using exists_evaluate_iff
    rw [if_pos rfl, ← kept]
    apply Outcome.exists_ok_congr
    cases r.evaluate signal <;> rfl
  | false =>
    refine iff_of_true ?_ (by simp)
    rw [if_neg Bool.false_ne_true]
    split <;> exact ⟨_, rfl⟩

end Matching.Rule

namespace Reaction

/-! ## §4 All Kinds -/

/-- The rule of a random component. -/
def diceRule (s : Stimulus) : Dice.Rule := ⟨s.setting "min", s.setting "max", s.setting "period"⟩

/-- The expression of a pattern. -/
def expressionText (s : Stimulus) : String :=
  if (s.setting "expression").truthy then (s.setting "expression").display else ""

/-- The phase of an oscillator after a tick. -/
def phaseAfter (s : Stimulus) (phase : Float) : Float :=
  Oscillation.advance phase
    (Oscillation.frequency (s.input "SET_FREQUENCY") (s.setting "frequency")) s.moment.interval

/-- A component is asked for more than it can do. -/
def Overtaxed (s : Stimulus) : (k : Kind) → k.shape.State → Prop
  | .random, d => d.CannotSeed s.moment.settings.seed s.id ∨
      d.CannotDraw (diceRule s) s.moment.interval s.moment.now
  | .regEx, _ => (s.input "SIGNAL_IN").isPresent = true ∧ Blank.trim (expressionText s) ≠ "" ∧
      Matching.Rule.CountsTooFar (expressionText s)
  | .oscillator, phase => phase.isFinite = false ∨ (phaseAfter s phase).isFinite = false
  | _, _ => False

/-- Only three kinds can be overtaxed, and a pattern only by a row of digits. -/
theorem Overtaxed.cases {s : Stimulus} {k : Kind} {state : k.shape.State}
    (h : Overtaxed s k state) :
    k = .random ∨ k = .oscillator ∨
      k = .regEx ∧ Pattern.HasLargeCount (expressionText s).toList := by
  cases k with
  | random => exact .inl rfl
  | oscillator => exact .inr (.inl rfl)
  | regEx => exact .inr (.inr ⟨rfl, h.2.2.hasLargeCount⟩)
  | _ => cases h

theorem random_ok_iff (s : Stimulus) (d : Dice) :
    (∃ out, (random s d).outputs = .ok out) ↔ ¬ Overtaxed s .random d := by
  rw [Overtaxed, ← Dice.roll_ok_iff]
  unfold random
  dsimp only [diceRule]
  split
  · next rolled => rw [rolled]; exact iff_of_true ⟨_, rfl⟩ rfl
  · next rolled => rw [rolled]; exact iff_of_false (fun ⟨_, h⟩ => nomatch h) nofun

theorem matching_ok_iff (s : Stimulus) (last : Value) :
    (∃ out, (matching s last).outputs = .ok out) ↔ ¬ Overtaxed s .regEx last := by
  unfold matching
  dsimp only
  generalize rule : Matching.Rule.mk _ _ _ _ _ _ _ = r
  have text : r.expressionText = expressionText s := by rw [← rule]; rfl
  rw [Overtaxed, ← text, ← Matching.Rule.exists_emit_iff r last]
  apply Outcome.exists_ok_congr
  cases r.emit last (s.input "SIGNAL_IN") <;> rfl

theorem oscillator_ok_iff (s : Stimulus) (phase : Float) :
    (∃ out, (oscillator s phase).outputs = .ok out) ↔ ¬ Overtaxed s .oscillator phase := by
  have finite : ¬ Overtaxed s .oscillator phase ↔
      phase.isFinite = true ∧ (phaseAfter s phase).isFinite = true := by
    simp only [Overtaxed, not_or, Bool.not_eq_false]
  rw [finite, ← Oscillation.exists_emit_iff
    (w := Oscillation.wave (s.input "SET_OUTPUTTYPE") (s.setting "outputType"))]
  unfold oscillator phaseAfter
  dsimp only
  apply Outcome.exists_ok_congr
  cases Oscillation.emit _ _ _ <;> rfl

/-- **Returning**: in a state that is reached a reaction returns, unless it is overtaxed. -/
theorem outputs_ok_iff {k : Kind} {state : k.shape.State} (reached : Reached k state)
    (s : Stimulus) : (∃ out, (ofKind s k state).outputs = .ok out) ↔ ¬ Overtaxed s k state := by
  have returns (out : ∃ out, (ofKind s k state).outputs = .ok out) (never : ¬ Overtaxed s k state) :
      (∃ out, (ofKind s k state).outputs = .ok out) ↔ ¬ Overtaxed s k state :=
    iff_of_true out never
  cases k with
  | random => exact random_ok_iff s state
  | regEx => exact matching_ok_iff s state
  | oscillator => exact oscillator_ok_iff s state
  | adder | subtract | multiply | divide =>
    exact returns (arithmetic_numeric reached.sound s _).1 not_false
  | equals | and | or | xor | greater =>
    exact returns (gate_numeric reached.sound s _).1 not_false
  | not =>
    refine returns ?_ not_false
    unfold ofKind Reaction.not
    dsimp only
    split <;> exact ⟨_, rfl⟩
  | _ => exact returns ⟨_, rfl⟩ not_false

end Reaction

end TickCircuit

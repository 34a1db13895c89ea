import Mathlib.Algebra.Group.Int.Defs
import TickCircuit.Proofs.Reaction.Returns
import TickCircuit.Proofs.Signal.Reading

/-!
# Fallbacks

What a component emits for signals and settings that it cannot use is part of its contract. The
numeric components with one input differ in it, so for them it is a table of three columns: there is
no signal, the signal is no number, or the number lies outside the domain (`Flaw.answer?`). The other
rules concern a missing or unreadable operand, a test that cannot be made, an expression that is no
pattern, and a channel on which nothing was heard.

`Fallback` collects the rules, and a component in a state that it comes to keeps to all of them. Apart
from what `Overtaxed` describes it returns (`returns_with_fallback`).
-/

namespace TickCircuit

/-! ## §1 Signals that Cannot be Used -/

/-- The numbers that the function of a numeric component is defined for. -/
def Kind.takes : Kind → Number → Bool
  | .ceil, n | .floor, n | .round, n | .sin, n | .cos, n | .tan, n | .modulo, n => n.isFinite
  | .asin, n | .acos, n => (Number.int (-1)).le n && n.le (.int 1)
  | .squareRoot, n => !n.lt (.int 0)
  | .factorial, n => (Value.wholePart? n).any fun m => 0 ≤ m && m ≤ 20
  | _, _ => true

/-- Why a numeric component cannot use a signal. -/
inductive Flaw where
  /-- There is no signal. -/
  | missing
  /-- The signal is no number. -/
  | unreadable
  /-- The function is not defined for the number. -/
  | outside

namespace Flaw

/-- A component of a kind cannot use a signal for this reason. -/
def Spoils (k : Kind) (v : Value) : Flaw → Prop
  | missing => v.isPresent = false
  | unreadable => v.isPresent = true ∧ v.reading? = none
  | outside => ∃ n, v.reading? = some n ∧ k.takes n = false

/-- What a numeric component emits for a signal that it cannot use. Nothing is said here of kinds
whose answer depends on more than this signal. -/
def answer? (k : Kind) (v : Value) : Flaw → Option Value
  | missing =>
    match k with
    | .abs | .ceil | .floor | .cos | .asin | .acos | .factorial | .modulo | .exponentiation =>
      some .absent
    | .sin | .tan | .round | .squareRoot => some (.int 0)
    | _ => none
  | unreadable =>
    match k with
    | .abs | .acos => some v
    | .ceil | .floor | .cos | .asin => some .absent
    | .sin | .tan | .round | .squareRoot | .factorial => some (.int 0)
    | .not => some (.int 1)
    | _ => none
  | outside =>
    match k with
    | .ceil | .floor | .cos | .asin | .acos => some .absent
    | .sin | .tan | .round | .squareRoot | .factorial | .modulo => some (.int 0)
    | _ => none

end Flaw

/-! ## §2 The Table -/

/-- Outside its range a factorial is zero. -/
theorem Unary.factorial_outside {v : Value} {n : Number} (read : v.reading? = some n)
    (outside : Kind.factorial.takes n = false) : factorial v = some (.int 0) := by
  have present := Value.isPresent_of_reading? read
  unfold factorial
  rw [if_pos present, Value.wholeReading?, read, Option.bind_some]
  cases whole : Value.wholePart? n with
  | none => rfl
  | some m =>
    have beyond : (decide (0 ≤ m) && decide (m ≤ maxFactorial)) = false := by
      rw [Kind.takes, whole] at outside
      exact outside
    simp [beyond]

namespace Reaction

variable {σ : Type} {s : Stimulus}

/-- The signal that a reaction puts on a pin. A pin that is left out carries none. -/
def emitted (r : Reaction σ) (pin : String) : Except Fault Value :=
  r.outputs.map fun out => (out.getD []).read pin

@[simp]
theorem emitted_signal (state : σ) (value : Value) (out : Option Value) :
    (signal state value out).emitted "SIGNAL_OUT" = .ok (out.getD .absent) := by
  cases out <;> rfl

@[simp]
theorem emitted_unary (rule : Value → Option Value) :
    (unary s rule).emitted "SIGNAL_OUT" = .ok ((rule (s.input "SIGNAL_IN")).getD .absent) :=
  emitted_signal ..

section Table

variable {k : Kind} {state : k.shape.State} {v : Value}

theorem emitted_missing (missing : (s.input "SIGNAL_IN").isPresent = false)
    (answer : Flaw.missing.answer? k (s.input "SIGNAL_IN") = some v) :
    (ofKind s k state).emitted "SIGNAL_OUT" = .ok v := by
  have unread := Value.reading?_of_missing missing
  have unusable : Trigonometry.finite? (s.input "SIGNAL_IN") = none := by
    simp [Trigonometry.finite?, unread]
  cases k <;> cases answer <;>
    simp [ofKind, tan, Unary.abs, Unary.ceil, Unary.floor, Unary.rounded, Unary.round,
      Unary.squareRoot, Unary.factorial, Unary.modulo, Unary.power, Trigonometry.sin,
      Trigonometry.cos, Trigonometry.tan, Trigonometry.asin, Trigonometry.acos, unusable, unread,
      missing]

theorem emitted_unreadable (present : (s.input "SIGNAL_IN").isPresent = true)
    (unread : (s.input "SIGNAL_IN").reading? = none)
    (answer : Flaw.unreadable.answer? k (s.input "SIGNAL_IN") = some v) :
    (ofKind s k state).emitted "SIGNAL_OUT" = .ok v := by
  have unusable : Trigonometry.finite? (s.input "SIGNAL_IN") = none := by
    simp [Trigonometry.finite?, unread]
  have negated : Unary.negation (s.input "SIGNAL_IN") = .int 1 := by
    rw [Unary.negation, Value.numberOrZero, unread]
    rfl
  cases k <;> cases answer <;>
    simp [ofKind, tan, Reaction.not, Unary.abs, Unary.ceil, Unary.floor, Unary.rounded,
      Unary.round, Unary.squareRoot, Unary.factorial, Value.wholeReading?, Trigonometry.sin,
      Trigonometry.cos, Trigonometry.tan, Trigonometry.asin, Trigonometry.acos, unusable,
      negated, unread, present]

theorem emitted_outside {n : Number} (read : (s.input "SIGNAL_IN").reading? = some n)
    (refused : k.takes n = false)
    (answer : Flaw.outside.answer? k (s.input "SIGNAL_IN") = some v) :
    (ofKind s k state).emitted "SIGNAL_OUT" = .ok v := by
  have present := Value.isPresent_of_reading? read
  cases k with
  | asin | acos =>
    have noCosine : Trigonometry.isCosine n = false := refused
    cases answer
    simp [ofKind, Trigonometry.asin, Trigonometry.acos, read, present, noCosine]
  | squareRoot =>
    have negative : n.lt (.int 0) = true := by simpa [Kind.takes] using refused
    cases answer
    simp [ofKind, Unary.squareRoot, read, negative]
  | factorial =>
    cases answer
    simp [ofKind, Unary.factorial_outside read refused]
  | _ =>
    -- what is left asks for a finite number only
    cases answer <;> simp only [Kind.takes] at refused <;>
      simp [ofKind, tan, Unary.ceil, Unary.floor, Unary.rounded, Unary.round, Unary.modulo,
        Value.numberOrZero, Trigonometry.sin, Trigonometry.cos, Trigonometry.tan,
        Trigonometry.finite?, read, present, refused]

/-- **The table**: a signal that a numeric component cannot use gets the answer of its column. -/
theorem emitted_of_flaw {flaw : Flaw} (spoiled : flaw.Spoils k (s.input "SIGNAL_IN"))
    (answer : flaw.answer? k (s.input "SIGNAL_IN") = some v) :
    (ofKind s k state).emitted "SIGNAL_OUT" = .ok v := by
  cases flaw with
  | missing => exact emitted_missing spoiled answer
  | unreadable => exact emitted_unreadable spoiled.1 spoiled.2 answer
  | outside =>
    obtain ⟨n, read, refused⟩ := spoiled
    exact emitted_outside read refused answer

end Table

end Reaction

/-! ## §3 Remainders of Zero -/

section Remainder

open Float.Model

theorem Binary.unpack_zero : (0.0 : Float).toModel.unpack = .zero .positive := rfl

/-- Zero leaves nothing, unless the divisor is a zero or a NaN. -/
theorem Binary.remainder_zero {y : Float} (nonzero : ∀ sign, y.toModel.unpack ≠ .zero sign)
    (number : y.toModel.unpack ≠ .notANumber) : remainder 0.0 y = 0.0 := by
  unfold remainder
  rw [unpack_zero]
  cases divisor : y.toModel.unpack with
  | finite | infinity => rfl
  | zero sign => exact absurd divisor (nonzero sign)
  | notANumber => exact absurd divisor number

/-- As a whole number nothing is left in any case. -/
theorem Unary.wholeOf_remainder_zero (y : Float) : wholeOf (Binary.remainder 0.0 y) = 0 := by
  have left : Binary.remainder 0.0 y = 0.0 ∨ Binary.remainder 0.0 y = 0.0 / 0.0 := by
    unfold Binary.remainder
    rw [Binary.unpack_zero]
    cases y.toModel.unpack with
    | finite | infinity => exact .inl rfl
    | zero | notANumber => exact .inr rfl
  rcases left with h | h <;> rw [h] <;> rfl

/-- The remainder of what is no number is zero. -/
theorem Unary.modulo_unreadable {v modulus : Value} (present : v.isPresent = true)
    (unread : v.reading? = none) :
    modulo v modulus =
      some (if modulus.numberOrZero.isZero || modulus.numberOrZero.isInt then .int 0
        else .real 0.0) := by
  have zero : v.numberOrZero = .int 0 := by rw [Value.numberOrZero, unread]; rfl
  have atZero : (Number.int 0).toFloat = 0.0 := rfl
  have finite : (Number.int 0).isFinite = true := rfl
  have whole : (Number.int 0).isInt = true := rfl
  unfold modulo
  rw [if_pos present, zero]
  simp only [finite, whole, atZero, Bool.not_true, Bool.or_false, Bool.true_and]
  cases divisor : modulus.numberOrZero with
  | int m =>
    -- with a whole modulus the remainder is made whole, whatever it is
    have isInt : (Number.int m).isInt = true := rfl
    rw [isInt, wholeOf_remainder_zero]
    simp
  | real x =>
    have isReal : (Number.real x).isInt = false := rfl
    rw [isReal, Bool.or_false]
    by_cases nothing : (Number.real x).isZero = true
    · rw [if_pos nothing, if_pos nothing]
    -- a fraction that was read is neither a zero here nor a NaN
    · have read : modulus.reading? = some (.real x) := by
        unfold Value.numberOrZero at divisor
        cases reading : modulus.reading? with
        | none => rw [reading] at divisor; cases divisor
        | some n => rw [reading] at divisor; exact congrArg some divisor
      have nonzero : ∀ sign, x.toModel.unpack ≠ .zero sign := by
        intro sign unpacked
        apply nothing
        simp [Number.isZero, Number.eq, Number.compare?, Binary.compareInt?, unpacked]
      rw [if_neg nothing, if_neg nothing, if_neg Bool.false_ne_true, Number.toFloat,
        Binary.remainder_zero nonzero (Value.unpack_ne_notANumber read)]

end Remainder

/-! ## §4 What Counts as Zero -/

namespace Value

/-- A signal that is no number, taken as zero. -/
def zeroed (v : Value) : Value := if v.isPresent && v.reading?.isNone then .int 0 else v

@[simp]
theorem zeroed_isPresent (v : Value) : v.zeroed.isPresent = v.isPresent := by
  unfold zeroed
  split
  · next unusable => exact (Bool.and_eq_true_iff.1 unusable).1.symm
  · rfl

@[simp]
theorem zeroed_numberOrZero (v : Value) : v.zeroed.numberOrZero = v.numberOrZero := by
  unfold zeroed
  split
  · next unusable =>
    have unread := Option.isNone_iff_eq_none.1 (Bool.and_eq_true_iff.1 unusable).2
    rw [numberOrZero, numberOrZero, unread]
    rfl
  · rfl

end Value

/-- What is no number is raised to a power like zero, and counts as zero as an exponent. -/
theorem Unary.power_zeroed (v exponent : Value) :
    power v.zeroed exponent.zeroed = power v exponent := by
  simp [power]

/-- In an angle, too, what is no number counts as zero. -/
theorem Trigonometry.atan_zeroed (inRadians : Bool) (v x y : Value) :
    atan inRadians v.zeroed x.zeroed y.zeroed = atan inRadians v x y := by
  simp [atan]

namespace Reaction

variable {s : Stimulus}

/-! ## §5 Operands and Tests -/

/-- One of the two operands is no number. -/
def Unreadable (a b : Value) : Prop :=
  (a.isPresent = true ∧ a.reading? = none) ∨ (b.isPresent = true ∧ b.reading? = none)

/-- The first signal passes through. -/
theorem emitted_arithmetic (unreadable : Unreadable (first s) (second s)) (history : History)
    (operation : Number → Number → Number) :
    (arithmetic s history operation).emitted "SIGNAL_OUT" = .ok (first s) := by
  have operand {v : Value} (unread : v.isPresent = true ∧ v.reading? = none) :
      Arithmetic.operand v = none := by
    rw [Arithmetic.operand, if_pos unread.1, unread.2]
  unfold arithmetic
  -- two numbers are combined only if both operands are numbers
  split
  · next a b atFirst atSecond =>
    rcases unreadable with unread | unread
    · rw [operand unread] at atFirst
      cases atFirst
    · rw [operand unread] at atSecond
      cases atSecond
  · exact emitted_signal ..

/-- A quotient by zero is zero. -/
theorem emitted_divide_byZero {a b : Number} (dividend : Arithmetic.operand (first s) = some a)
    (divisor : Arithmetic.operand (second s) = some b) (zero : b.isZero = true)
    (noWindow : Arithmetic.window? (s.setting "timeFrame") = none) (history : History) :
    (arithmetic s history Arithmetic.divide).emitted "SIGNAL_OUT" =
      .ok (.ofNumber
        (Arithmetic.Bounds.hold ⟨s.setting "clampMin", s.setting "clampMax"⟩ (.int 0))) := by
  have quotient : Arithmetic.finiteOrZero (Arithmetic.divide a b) = .int 0 := by
    rw [Arithmetic.divide, if_pos zero]
    rfl
  unfold arithmetic Arithmetic.finish
  rw [dividend, divisor, noWindow]
  dsimp only
  rw [quotient]
  exact emitted_signal ..

/-- The test of a gate cannot be made, or fails, for want of signals or numbers. -/
def Untestable : Kind → Value → Value → Prop
  | .equals, a, b | .and, a, b => a.isPresent = false ∨ b.isPresent = false
  | .or, a, b | .xor, a, b => a.isPresent = false ∧ b.isPresent = false
  | .greater, a, b => a.reading? = none ∨ b.reading? = none
  | _, _, _ => False

theorem emitted_gate {test : Value → Value → Bool} (failed : test (first s) (second s) = false)
    (noWindow : Arithmetic.window? (s.setting "timeFrame") = none) (history : History) :
    (gate s history test).emitted "SIGNAL_OUT" = .ok (gateText s false) := by
  unfold gate Gate.smoothed
  rw [noWindow, failed]
  exact emitted_signal ..

/-- A gate whose test cannot be made emits its text for a failed test. -/
theorem emitted_of_untestable {k : Kind} {state : k.shape.State}
    (untestable : Untestable k (first s) (second s))
    (noWindow : Arithmetic.window? (s.setting "timeFrame") = none) :
    (ofKind s k state).emitted "SIGNAL_OUT" = .ok (gateText s false) := by
  cases k with
  | equals =>
    refine emitted_gate ?_ noWindow state
    rcases untestable with missing | missing <;> simp [Gate.equals, missing]
  | and =>
    refine emitted_gate ?_ noWindow state
    rcases untestable with missing | missing <;> simp [Gate.both, Value.isActive, missing]
  | or =>
    refine emitted_gate ?_ noWindow state
    simp [Gate.either, Value.isActive, untestable.1, untestable.2]
  | xor =>
    refine emitted_gate ?_ noWindow state
    simp [Gate.exactlyOne, Value.isActive, untestable.1, untestable.2]
  | greater =>
    refine emitted_gate ?_ noWindow state
    unfold Gate.greater
    rcases untestable with unread | unread
    · rw [unread]
    · rw [unread]
      cases (first s).reading? <;> rfl
  | _ => cases untestable

/-! ## §6 Patterns -/

/-- A text of the length that a pattern emits at most. -/
def patternText (s : Stimulus) (v : Value) : Value := .text (v.cut (s.setting "maxOutputLength"))

/-- An expression that is no pattern matches nothing. -/
theorem emitted_of_badPattern (present : (s.input "SIGNAL_IN").isPresent = true)
    (expression : Blank.trim (expressionText s) ≠ "")
    (bad : Pattern.compile (expressionText s) = .error .badPattern) (last : Value) :
    (matching s last).emitted "SIGNAL_OUT" = .ok (patternText s (s.setting "falseOutput")) := by
  have result (r : Matching.Rule) (text : r.expressionText = expressionText s) :
      r.emit last (s.input "SIGNAL_IN") = .ok (.text (r.otherwise.cut r.maxLength)) := by
    have nonblank : ¬ (Blank.trim r.expressionText == "") = true := by simpa [text] using expression
    unfold Matching.Rule.emit Matching.Rule.evaluate
    dsimp only
    rw [if_pos present, if_neg nonblank, text, bad]
    rfl
  unfold matching
  dsimp only
  rw [result _ rfl]
  exact emitted_signal ..

/-- Without a signal the last text is repeated if that is wanted. -/
theorem emitted_matching_missing (missing : (s.input "SIGNAL_IN").isPresent = false)
    (last : Value) :
    (matching s last).emitted "SIGNAL_OUT" =
      .ok (patternText s (if (s.setting "continuousOutput").truthy && last.isPresent then last
        else s.setting "falseOutput")) := by
  have result (r : Matching.Rule) :
      r.emit last (s.input "SIGNAL_IN") =
        .ok (.text ((if r.continuous && last.isPresent then last else r.otherwise).cut
          r.maxLength)) := by
    unfold Matching.Rule.emit
    dsimp only
    rw [if_neg (Bool.eq_false_iff.1 missing)]
    split <;> rfl
  unfold matching
  dsimp only
  rw [result]
  exact emitted_signal ..

/-! ## §7 The Rules Together -/

/-- What a component of a kind in a state emits for what it cannot use. -/
inductive Fallback (s : Stimulus) : (k : Kind) → k.shape.State → Value → Prop where
  /-- The table of the numeric components with one input. -/
  | numeric {k : Kind} {state : k.shape.State} {flaw : Flaw} {v : Value}
      (spoiled : flaw.Spoils k (s.input "SIGNAL_IN"))
      (answer : flaw.answer? k (s.input "SIGNAL_IN") = some v) : Fallback s k state v
  /-- A negation keeps its last value as long as it has no input. -/
  | kept {last : Value} (missing : (s.input "SIGNAL_IN").isPresent = false) :
      Fallback s .not last (if (s.setting "continuousOutput").truthy then last else .int 0)
  /-- The remainder of what is no number is a zero. -/
  | remainder {state : Unit} {modulus : Number}
      (present : (s.input "SIGNAL_IN").isPresent = true)
      (unread : (s.input "SIGNAL_IN").reading? = none)
      (divisor : (s.override "SET_MODULUS" "modulus").numberOrZero = modulus) :
      Fallback s .modulo state
        (if modulus.isZero || modulus.isInt then .int 0 else .real 0.0)
  /-- The remainder by zero is zero. -/
  | noModulus {state : Unit} (present : (s.input "SIGNAL_IN").isPresent = true)
      (zero : (s.override "SET_MODULUS" "modulus").numberOrZero.isZero = true) :
      Fallback s .modulo state (.int 0)
  /-- What is no number is raised to a power like zero, and so it is as an exponent. -/
  | power {state : Unit} :
      Fallback s .exponentiation state ((Unary.power (s.input "SIGNAL_IN").zeroed
        (s.override "SET_EXPONENT" "exponent").zeroed).getD .absent)
  /-- What is no number has the angle of zero, and so it is as a part of a vector. -/
  | angle {state : Unit} :
      Fallback s .atan state ((Trigonometry.atan (inRadians s) (s.input "SIGNAL_IN").zeroed
        (s.input "SIGNAL_IN_X").zeroed (s.input "SIGNAL_IN_Y").zeroed).getD .absent)
  /-- An angle needs one signal or the two parts of a vector. -/
  | noAngle {state : Unit} (missing : (s.input "SIGNAL_IN").isPresent = false)
      (noVector : (s.input "SIGNAL_IN_X").isPresent = false ∨
        (s.input "SIGNAL_IN_Y").isPresent = false) : Fallback s .atan state .absent
  /-- If an operand is no number, the first signal passes through. -/
  | passThrough {k : Kind} {state : k.shape.State}
      (operation : k ∈ [.adder, .subtract, .multiply, .divide])
      (unreadable : Unreadable (first s) (second s)) : Fallback s k state (first s)
  /-- A quotient by zero is zero before it is bounded. -/
  | byZero {history : History} {a b : Number} (dividend : Arithmetic.operand (first s) = some a)
      (divisor : Arithmetic.operand (second s) = some b) (zero : b.isZero = true)
      (noWindow : Arithmetic.window? (s.setting "timeFrame") = none) :
      Fallback s .divide history
        (.ofNumber (Arithmetic.Bounds.hold ⟨s.setting "clampMin", s.setting "clampMax"⟩ (.int 0)))
  /-- A text is joined from two signals only. -/
  | unjoined {state : Unit}
      (missing : (first s).isPresent = false ∨ (second s).isPresent = false) :
      Fallback s .concatenation state .absent
  | untestable {k : Kind} {state : k.shape.State} (untestable : Untestable k (first s) (second s))
      (noWindow : Arithmetic.window? (s.setting "timeFrame") = none) :
      Fallback s k state (gateText s false)
  /-- A missing signal is not the target. -/
  | noTarget {state : Unit} (missing : (s.input "SIGNAL_IN").isPresent = false) :
      Fallback s .signalCheck state (gateText s false)
  | badPattern {last : Value} (present : (s.input "SIGNAL_IN").isPresent = true)
      (expression : Blank.trim (expressionText s) ≠ "")
      (bad : Pattern.compile (expressionText s) = .error .badPattern) :
      Fallback s .regEx last (patternText s (s.setting "falseOutput"))
  | unmatched {last : Value} (missing : (s.input "SIGNAL_IN").isPresent = false) :
      Fallback s .regEx last
        (patternText s (if (s.setting "continuousOutput").truthy && last.isPresent then last
          else s.setting "falseOutput"))
  /-- A selected channel without a signal counts as zero. -/
  | unconnected {selection : Selection}
      (missing : (s.input (Selecting.pin "SIGNAL_IN_"
        (inputSelector s selection).state.channel)).isPresent = false) :
      Fallback s .inputSelector selection (.int 0)
  /-- On the channel nothing was heard. -/
  | unheard {state : Unit} (silent : s.moment.heard.get? (channel s) = none) :
      Fallback s .wifi state .absent
  /-- A colour needs one of its parts. -/
  | colorless {state : Unit}
      (missing : ∀ pin ∈ Kind.inputPins .color, (s.input pin).isPresent = false) :
      Fallback s .color state .absent

theorem emitted_of_fallback {k : Kind} {state : k.shape.State} {v : Value}
    (fallback : Fallback s k state v) : (ofKind s k state).emitted "SIGNAL_OUT" = .ok v := by
  -- one case for each way to come to a fallback; the longer ones are lemmas of their own
  cases fallback with
  | numeric spoiled answer => exact emitted_of_flaw spoiled answer
  | kept missing => simp [ofKind, Reaction.not, missing]
  | remainder present unread divisor =>
    subst divisor
    simp [ofKind, Unary.modulo_unreadable present unread]
  | noModulus present zero => simp [ofKind, Unary.modulo, present, zero]
  | power => simp [ofKind, Unary.power_zeroed]
  | angle => simp [ofKind, atan, Trigonometry.atan_zeroed]
  | noAngle missing noVector =>
    rcases noVector with h | h <;> simp [ofKind, atan, Trigonometry.atan, missing, h]
  | passThrough operation unreadable =>
    simp only [List.mem_cons, List.not_mem_nil, or_false] at operation
    rcases operation with rfl | rfl | rfl | rfl <;> exact emitted_arithmetic unreadable _ _
  | byZero dividend divisor zero noWindow =>
    exact emitted_divide_byZero dividend divisor zero noWindow _
  | unjoined missing =>
    rcases missing with h | h <;>
      simp [ofKind, concatenation, Arithmetic.concatenation, h]
  | untestable untestable noWindow => exact emitted_of_untestable untestable noWindow
  | noTarget missing => simp [ofKind, signalCheck, Gate.isTarget, missing]
  | badPattern present expression bad => exact emitted_of_badPattern present expression bad _
  | unmatched missing => exact emitted_matching_missing missing _
  | @unconnected selection missing =>
    have selected : (inputSelector s selection).emitted "SIGNAL_OUT" =
        .ok (if (s.input (Selecting.pin "SIGNAL_IN_"
            (inputSelector s selection).state.channel)).isPresent then
          s.input (Selecting.pin "SIGNAL_IN_" (inputSelector s selection).state.channel)
        else .int 0) := rfl
    rw [ofKind, selected, missing]
    rfl
  | unheard silent =>
    have received : (wifi s).emitted "SIGNAL_OUT" = .ok (s.moment.heard.hear (channel s)) := rfl
    rw [ofKind, received, Channels.hear, silent]
    rfl
  | colorless missing =>
    simp [Kind.inputPins] at missing
    simp [ofKind, color, Coloring.pack, missing]

/-- The stimulus of a component by itself in its first tick. -/
def firstStimulus (settings : List (String × Value)) (inputs : Pins) (interval : Float) : Stimulus :=
  ⟨.text "X", Record.ofFields settings, inputs, .null,
    ⟨1, interval, interval, [], [], { EngineSettings.standard with seed := some 1 }⟩⟩

end Reaction

end TickCircuit

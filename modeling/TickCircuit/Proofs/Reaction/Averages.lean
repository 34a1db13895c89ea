import TickCircuit.Proofs.Number.Sums
import TickCircuit.Proofs.Reaction.Courses
import TickCircuit.Proofs.Reaction.Recording
import TickCircuit.Proofs.Signal.Reading

/-!
# Results that Are Finite and Clamped

A result of arithmetic that is not finite becomes zero before it goes any further, and what comes out is held
between the bounds. With a time window the mean is taken in between, and nothing looks at it again: it is finite
if the samples in the window can be added, which they can unless there are too many of them or they are too large
(`History.addable_of_bounded`). Then the outputs are as they should be (`arithmetic_clamped`); two samples near
the end of the range are enough for an average that is infinite (`average_overflows`).
-/

namespace TickCircuit

/-! ## §1 Numbers -/

theorem Number.exists_exactValue? {n : Number} (finite : n.isFinite = true) : ∃ u, n.exactValue? = some u := by
  cases n with
  | int n => exact ⟨_, rfl⟩
  | real x =>
    obtain ⟨a, value⟩ := Binary.isFinite_iff.1 finite
    exact ⟨_, value⟩

namespace Arithmetic

theorem isFinite_finiteOrZero (n : Number) : (finiteOrZero n).isFinite = true := by
  unfold finiteOrZero
  split
  · assumption
  · rfl

/-- The bounds that are numbers are finite. -/
def Bounds.Finite (b : Bounds) : Prop :=
  (∀ l ∈ b.lower.reading?, l.isFinite = true) ∧ ∀ r ∈ b.upper.reading?, r.isFinite = true

/-- A result is finite, and held between the bounds. -/
structure Bounds.Holds (b : Bounds) (out : Number) : Prop where
  finite : out.isFinite = true
  lower : ∀ l ∈ b.lower.reading?, l.le out = true
  upper : ∀ r ∈ b.upper.reading?, (∀ l ∈ b.lower.reading?, r.lt l = false) → out.le r = true

/-- What is held between finite bounds is finite, and between them. -/
theorem Bounds.Finite.holds {b : Bounds} (bounds : b.Finite) {n : Number} (finite : n.isFinite = true) :
    b.Holds (b.hold n) := by
  obtain ⟨u, value⟩ := Number.exists_exactValue? finite
  have within := Number.clamp_within value (fun l given => Number.exists_exactValue? (bounds.1 l given))
    fun r given => Number.exists_exactValue? (bounds.2 r given)
  refine ⟨?_, within.1, within.2⟩
  rcases n.clamp_mem b.lower.reading? b.upper.reading? with same | lower | upper
  · rw [hold, same, finite]
  · exact bounds.1 _ lower
  · exact bounds.2 _ upper

end Arithmetic

/-! ## §2 Histories -/

namespace History

variable {h : History} {v : Value} {now : Float} {window : Number}

/-- The samples can be added without leaving the range of finite `Float`s. -/
def Addable (h : History) : Prop :=
  ∃ numbers, (h.samples.mapM fun s => s.value.toFloat) = .ok numbers ∧ (Mean.sum numbers).isFinite = true

theorem addable_iff : h.Addable ↔
    (match h.samples.mapM fun s => s.value.toFloat with
      | .ok numbers => (Mean.sum numbers).isFinite
      | .error _ => false) = true := by
  unfold Addable
  cases h.samples.mapM fun s => s.value.toFloat <;> simp

instance : Decidable h.Addable := decidable_of_iff _ addable_iff.symm

/-- Samples that are at most `2 ^ p` units away from zero can be added while there are not too many of them. -/
theorem addable_of_bounded {p : ℕ}
    (bounded : ∀ s ∈ h.samples, ∃ x, s.value.toFloat = .ok x ∧ Mean.IsBounded p x 1)
    (few : h.samples.length < 2 ^ 53) (room : h.samples.length * 2 ^ p < Binary.ceiling) : h.Addable := by
  obtain ⟨numbers, read⟩ := Outcome.exists_forall₂ bounded
  have length := read.length_eq
  refine ⟨numbers, Outcome.mapM_eq_ok_iff.2 (read.imp fun _ _ => And.left),
    Mean.isFinite_sum (fun x member => ?_) (length ▸ few) (length ▸ room)⟩
  obtain ⟨s, -, -, small⟩ := Outcome.exists_of_mem read member
  exact small

/-- The mean of at least one sample is finite if their sum is. -/
theorem Addable.exists_mean (addable : h.Addable) (nonempty : h.samples ≠ [])
    (few : h.samples.length < 2 ^ 63) : ∃ x, h.mean = .ok x ∧ x.isFinite = true := by
  obtain ⟨numbers, read, finite⟩ := addable
  have length := (Outcome.mapM_eq_ok_iff.1 read).length_eq
  refine ⟨Mean.mean numbers, by rw [mean, read]; rfl, Mean.isFinite_mean finite ?_ (length ▸ few)⟩
  rw [← length]
  exact List.length_pos_iff.2 nonempty

theorem capacity_setLimit_pos (room : 0 < h.capacity) {limit : ℕ} (least : 1 ≤ limit) :
    0 < (h.setLimit limit).2.capacity := by
  unfold setLimit
  split
  · exact room
  · rw [capacity?_natCast]
    split_ifs
    · exact least
    · exact room

end History

namespace Reaction

/-- The states that a component comes to by reacting, under limits that leave room for a sample. -/
inductive Kept : (k : Kind) → k.shape.State → Prop where
  | initial {k : Kind} {settings : Record} {state : k.shape.State}
      (starts : k.shape.initial settings = .ok state) : Kept k state
  | react {k : Kind} {state : k.shape.State} (s : Stimulus) (before : Kept k state) :
      Kept k (ofKind s k state).state
  | limit {k : Kind} {state : k.shape.State} {limit : ℕ} (least : 1 ≤ limit) (before : Kept k state) :
      Kept k (Component.limitState limit k.shape state).2

variable {k : Kind} {state : k.shape.State} {history : History}

theorem Kept.reached (kept : Kept k state) : Reached k state := by
  induction kept with
  | initial starts => exact .initial starts
  | react s _ ih => exact ih.react s
  | limit _ _ ih => exact ih.limit _

/-- Histories that are kept have room for a sample. -/
theorem Kept.room (kept : Kept k state) (shown : k.shape.history? state = some history) :
    0 < history.capacity := by
  induction kept generalizing history with
  | initial starts =>
    rw [Shape.history?_initial starts shown]
    decide
  | react s _ ih =>
    obtain ⟨before, shownBefore, rfl | ⟨v, window, rfl⟩⟩ := history_react s shown
    · exact ih shownBefore
    · change 0 < before.capacity
      exact ih shownBefore
  | limit least _ ih =>
    rw [Shape.history?_limitState, Option.map_eq_some_iff] at shown
    obtain ⟨before, shownBefore, rfl⟩ := shown
    exact History.capacity_setLimit_pos (ih shownBefore) least

/-! ## §3 Arithmetic -/

variable {s : Stimulus}

/-- There is no signal, or one that is a number. -/
def Readable (v : Value) : Prop := v.isPresent = true → v.reading?.isSome = true

theorem exists_operand {v : Value} (readable : Readable v) : ∃ n, Arithmetic.operand v = some n := by
  unfold Arithmetic.operand
  split
  · next present => exact Option.isSome_iff_exists.1 (readable present)
  · exact ⟨_, rfl⟩

/-- The bounds of a result. -/
def bounds (s : Stimulus) : Arithmetic.Bounds := ⟨s.setting "clampMin", s.setting "clampMax"⟩

/-- Two operands that are numbers give a number. It is as it should be if no window is set, or if the samples
in the window can be added. -/
theorem exists_arithmetic_outputs (operation : Number → Number → Number) (room : 0 < history.capacity)
    (numeric : history.Numeric) (within : history.WithinLimit) (readable : Readable (first s))
    (readable' : Readable (second s)) (finite : (bounds s).Finite) :
    ∃ out, (arithmetic s history operation).outputs = .ok (some [("SIGNAL_OUT", .ofNumber out)]) ∧
      (Arithmetic.window? (s.setting "timeFrame") = none ∨ (arithmetic s history operation).state.Addable →
        (bounds s).Holds out) := by
  obtain ⟨a, first⟩ := exists_operand readable
  obtain ⟨b, second⟩ := exists_operand readable'
  unfold arithmetic
  rw [first, second]
  dsimp only
  unfold Arithmetic.finish
  dsimp only
  cases window : Arithmetic.window? (s.setting "timeFrame") with
  | none => exact ⟨_, rfl, fun _ => finite.holds (Arithmetic.isFinite_finiteOrZero _)⟩
  | some seconds =>
    have positive := Arithmetic.lt_of_window? window
    have member := History.mem_windowedMean (.ofNumber (Arithmetic.finiteOrZero (operation a b)))
      s.moment.now room positive
    have after := within.windowedMean (.ofNumber (Arithmetic.finiteOrZero (operation a b)))
      (.real s.moment.now) seconds
    obtain ⟨⟨f, mean⟩, -⟩ := numeric.windowedMean (Arithmetic.toFloat_finiteOrZero (operation a b))
      (.real s.moment.now) seconds
    dsimp only
    rw [mean]
    -- a mean there is in any case; that it is finite takes a finite sum
    refine ⟨_, rfl, fun addable => ?_⟩
    obtain ⟨x, same, finiteMean⟩ := (addable.resolve_left nofun).exists_mean (List.ne_nil_of_mem member)
      (after.room.trans_lt after.bounded)
    cases mean.symm.trans same
    exact finite.holds finiteMean

/-- The kinds that combine two numbers. -/
def arithmeticKinds : List Kind := [.adder, .subtract, .multiply, .divide]

/-- **Arithmetic**: two operands that are numbers, or are not there, always give a number. Without a time window
it is finite, whatever has come of the operation, and lies between the bounds; with a window it does so too,
unless the samples in the window are so large that their sum leaves the range of finite `Float`s. -/
theorem arithmetic_clamped (arithmetic : k ∈ arithmeticKinds) (kept : Kept k state) (s : Stimulus)
    (readable : Readable (first s)) (readable' : Readable (second s)) (finite : (bounds s).Finite) :
    ∃ out, (ofKind s k state).outputs = .ok (some [("SIGNAL_OUT", .ofNumber out)]) ∧
      ((Arithmetic.window? (s.setting "timeFrame") = none ∨
          ∀ after, k.shape.history? (ofKind s k state).state = some after → after.Addable) →
        (bounds s).Holds out) := by
  have sound := kept.reached.sound
  cases k with
  | adder | subtract | multiply | divide =>
    obtain ⟨out, emitted, holds⟩ := exists_arithmetic_outputs _ (kept.room rfl) sound
      (kept.reached.withinLimit rfl) readable readable' finite
    exact ⟨out, emitted, fun addable => holds (addable.imp_right fun all => all _ rfl)⟩
  | _ => exact absurd arithmetic (by decide)

/-- An adder that averages 1 and 2 over ten seconds and is bounded from above by 1. -/
theorem arithmetic_clamped_of_average :
    let course := Course.ofInputs [("timeFrame", .int 10), ("clampMax", .text "1")]
      fun i => [("SIGNAL_IN_1", .int (i + 1))]
    let after := Reaction.stateAfter (σ := History) (fun s h => ofKind s .adder h) course
      (.empty History.standardLimit)
    ∃ out, (ofKind (course 1) .adder (after 1)).outputs = .ok (some [("SIGNAL_OUT", .ofNumber out)]) ∧
      (bounds (course 1)).Holds out := by
  intro course after
  have kept : Kept .adder (after 1) := .react (course 0) (.initial (show Shape.initial _ [] = .ok _ from rfl))
  have finite : (bounds (course 1)).Finite := by
    refine ⟨nofun, ?_⟩
    decide +kernel
  obtain ⟨out, emitted, holds⟩ := arithmetic_clamped (by decide) kept (course 1)
    (fun _ => by decide +kernel) nofun finite
  refine ⟨out, emitted, holds (.inr fun left shown => ?_)⟩
  rw [← Option.some.inj (show some (ofKind (course 1) .adder (after 1)).state = some left from shown)]
  decide +kernel

/-- An adder that averages two numbers near the end of the range over ten seconds: the operation is finite both
times, and the average is not. -/
theorem average_overflows :
    let course := Course.ofInputs [("timeFrame", .int 10)] fun _ => [("SIGNAL_IN_1", .real 1e308)]
    let before := (ofKind (course 0) .adder (.empty History.standardLimit)).state
    Kept .adder before ∧ Readable (first (course 1)) ∧ Readable (second (course 1)) ∧
      (course 1).moment.now.isFinite = true ∧ (bounds (course 1)).Finite ∧
      ∃ out, (ofKind (course 1) .adder before).outputs = .ok (some [("SIGNAL_OUT", .ofNumber out)]) ∧
        out.isFinite = false := by
  intro course before
  have kept : Kept .adder before := .react (course 0) (.initial (show Shape.initial _ [] = .ok _ from rfl))
  have readable : Readable (first (course 1)) := fun _ => by decide +kernel
  have finite : (bounds (course 1)).Finite := ⟨nofun, nofun⟩
  refine ⟨kept, readable, nofun, by decide +kernel, finite, ?_⟩
  obtain ⟨out, emitted, -⟩ := exists_arithmetic_outputs Number.add (kept.room rfl) kept.reached.sound
    (kept.reached.withinLimit rfl) readable nofun finite
  refine ⟨out, emitted, ?_⟩
  have infinite : ((ofKind (course 1) .adder before).outputs.toOption.join.map fun pins =>
      pins.map fun pin => pin.2.isFiniteNumber) = some [false] := by decide +kernel
  rw [show (ofKind (course 1) .adder before).outputs = _ from emitted] at infinite
  cases out <;> exact List.head_eq_of_cons_eq (Option.some.inj infinite)

end Reaction

end TickCircuit

import Mathlib.Data.List.Basic
import TickCircuit.Engine.Tick

/-!
# The States that Components Come To

A component starts in an initial state of its kind. From there its state is changed by its reactions,
by the limit that is set for its history, and by its button. `Reached` are the states that it comes to
in this way, under whatever settings and signals.

Of these states only one thing matters for what can go wrong: a history holds nothing but finite
numbers (`Reached.sound`), because every sample that is recorded is one. So the mean of a history can
always be formed.
-/

namespace TickCircuit

/-! ## §1 Histories -/

namespace History

/-- Every sample can be taken as a `Float`. -/
def Numeric (h : History) : Prop := ∀ x ∈ h.samples, ∃ f, x.value.toFloat = .ok f

variable {h : History}

theorem numeric_empty (limit : Nat) : (empty limit).Numeric := fun _ hx => nomatch hx

theorem newest_sublist (n : Nat) (xs : List Sample) : (newest n xs).Sublist xs :=
  List.drop_sublist _ _

theorem Numeric.push (numeric : h.Numeric) {x : Sample} (sample : ∃ f, x.value.toFloat = .ok f) :
    (h.push x).Numeric := by
  intro y hy
  rcases List.mem_append.1 ((newest_sublist _ _).subset hy) with old | new
  · exact numeric y old
  · cases List.mem_singleton.1 new
    exact sample

theorem Numeric.prune (numeric : h.Numeric) (cutoff : Number) : (h.prune cutoff).Numeric :=
  fun x hx => numeric x ((List.dropWhile_sublist _).subset hx)

theorem Numeric.setLimit (numeric : h.Numeric) (limit : Int) : (h.setLimit limit).2.Numeric := by
  unfold History.setLimit
  split
  · exact numeric
  · split
    · exact numeric
    · exact fun x hx => numeric x ((newest_sublist _ _).subset hx)

/-- The mean of numbers can be formed. -/
theorem Numeric.exists_mean (numeric : h.Numeric) : ∃ f, h.mean = .ok f := by
  have read : ∀ xs : List Sample, (∀ x ∈ xs, ∃ f, x.value.toFloat = .ok f) →
      ∃ fs, xs.mapM (fun x => x.value.toFloat) = .ok fs := by
    intro xs each
    induction xs with
    | nil => exact ⟨[], rfl⟩
    | cons x rest ih =>
      obtain ⟨⟨f, first⟩, others⟩ := List.forall_mem_cons.1 each
      obtain ⟨fs, more⟩ := ih others
      exact ⟨f :: fs, by rw [List.mapM_cons, first, more]; rfl⟩
  obtain ⟨fs, samples⟩ := read h.samples numeric
  exact ⟨Mean.mean fs, by rw [mean, samples]; rfl⟩

/-- A number that is recorded joins the mean, and numbers are left behind. -/
theorem Numeric.windowedMean (numeric : h.Numeric) {v : Value} (number : ∃ f, v.toFloat = .ok f)
    (now window : Number) :
    (∃ f, (h.windowedMean v now window).1 = .ok f) ∧ (h.windowedMean v now window).2.Numeric := by
  have recorded := (Numeric.push numeric (x := ⟨v, now⟩) number).prune
    (now.sub (window.mul (.real 1000.0)))
  exact ⟨recorded.exists_mean, recorded⟩

end History

/-- The result of an operation is made finite before it is recorded. -/
theorem Arithmetic.toFloat_finiteOrZero (n : Number) :
    ∃ f, (Value.ofNumber (finiteOrZero n)).toFloat = .ok f := by
  have whole {n : Int} (held : Binary.holdsInt n = true) : ∃ f, (Value.int n).toFloat = .ok f :=
    ⟨_, if_pos held⟩
  unfold finiteOrZero
  split
  · next finite =>
    cases n with
    | int n => exact whole finite
    | real x => exact ⟨x, rfl⟩
  · exact whole (by decide)

/-- An outcome counts as one or zero. -/
theorem Value.toFloat_ofFlag (passed : Bool) :
    (Value.ofFlag passed).toFloat = .ok (Binary.ofInt passed.toNat) := by
  cases passed <;> rfl

namespace Reaction

/-! ## §2 Reactions that Record -/

section Recording

variable {history : History}

/-- An arithmetic component always has a result, and it records numbers. -/
theorem arithmetic_numeric (numeric : history.Numeric) (s : Stimulus)
    (operation : Number → Number → Number) :
    (∃ out, (arithmetic s history operation).outputs = .ok out) ∧
      (arithmetic s history operation).state.Numeric := by
  unfold arithmetic
  split
  · next a b _ _ =>
    unfold Arithmetic.finish
    dsimp only
    cases Arithmetic.window? (s.setting "timeFrame") with
    | none => exact ⟨⟨_, rfl⟩, numeric⟩
    | some seconds =>
      obtain ⟨⟨f, mean⟩, kept⟩ := numeric.windowedMean
        (Arithmetic.toFloat_finiteOrZero (operation a b)) (.real s.moment.now) seconds
      dsimp only
      rw [mean]
      exact ⟨⟨_, rfl⟩, kept⟩
  · exact ⟨⟨_, rfl⟩, numeric⟩

/-- So does a gate. -/
theorem gate_numeric (numeric : history.Numeric) (s : Stimulus) (test : Value → Value → Bool) :
    (∃ out, (gate s history test).outputs = .ok out) ∧ (gate s history test).state.Numeric := by
  unfold gate Gate.smoothed
  dsimp only
  cases Arithmetic.window? (s.setting "timeFrame") with
  | none => exact ⟨⟨_, rfl⟩, numeric⟩
  | some seconds =>
    obtain ⟨⟨f, mean⟩, kept⟩ := numeric.windowedMean
      ⟨_, Value.toFloat_ofFlag (test (first s) (second s))⟩ (.real s.moment.now) seconds
    dsimp only
    rw [mean]
    exact ⟨⟨_, rfl⟩, kept⟩

end Recording

/-! ## §3 Reached States -/

/-- The states that a component of a kind comes to. -/
inductive Reached : (k : Kind) → k.shape.State → Prop where
  | initial {k : Kind} {settings : Record} {state : k.shape.State}
      (starts : k.shape.initial settings = .ok state) : Reached k state
  | react {k : Kind} {state : k.shape.State} (s : Stimulus) (before : Reached k state) :
      Reached k (ofKind s k state).state
  | limit {k : Kind} {state : k.shape.State} (limit : Nat) (before : Reached k state) :
      Reached k (Component.limitState limit k.shape state).2
  | press (isPressed : Bool) : Reached .button isPressed

/-- The history in a state, if it is one, holds numbers. -/
def Sound : (s : Shape) → s.State → Prop
  | .window, history => history.Numeric
  | _, _ => True

theorem sound_initial {shape : Shape} {settings : Record} {state : shape.State}
    (starts : shape.initial settings = .ok state) : Sound shape state := by
  cases shape with
  | window =>
    cases starts
    exact History.numeric_empty _
  | _ => trivial

theorem sound_limitState {shape : Shape} {state : shape.State} (sound : Sound shape state)
    (limit : Nat) : Sound shape (Component.limitState limit shape state).2 := by
  cases shape with
  | window => exact History.Numeric.setLimit sound limit
  | _ => trivial

/-- **Step**: a reaction records nothing but numbers. -/
theorem sound_react {k : Kind} {state : k.shape.State} (sound : Sound k.shape state)
    (s : Stimulus) : Sound k.shape (ofKind s k state).state := by
  cases k with
  | adder | subtract | multiply | divide => exact (arithmetic_numeric sound s _).2
  | equals | and | or | xor | greater => exact (gate_numeric sound s _).2
  | _ => trivial

/-- **Run**: the history in a state that is reached holds numbers. -/
theorem Reached.sound {k : Kind} {state : k.shape.State} (reached : Reached k state) :
    Sound k.shape state := by
  induction reached with
  | initial starts => exact sound_initial starts
  | react s _ ih => exact sound_react ih s
  | limit n _ ih => exact sound_limitState ih n
  | press isPressed => trivial

end Reaction

end TickCircuit

import TickCircuit.Proofs.Engine.Turn

/-!
# Components without Memory

The outputs of a combinational component are a function of its fixture and its inputs. It keeps no
state, it does not listen to broadcasts, and neither the time nor the settings of the run matter to
it (`respond_congr`). Its turn can neither fail nor end the tick.
-/

namespace TickCircuit

/-- A kind whose components keep no state and do not broadcast. -/
def Kind.isCombinational (k : Kind) : Bool := k.shape == .stateless && k != .wifi

example : Kind.all.filter Kind.isCombinational =
    [.constant, .display, .abs, .ceil, .floor, .round, .squareRoot, .factorial, .sin, .cos, .tan,
      .asin, .acos, .atan, .modulo, .exponentiation, .concatenation, .signalCheck, .color] := by
  decide

def ComponentType.isCombinational : ComponentType → Bool
  | known k => k.isCombinational
  | foreign _ => false

namespace Component

variable {c x y : Component}

/-! ## §1 The Response -/

/-- The signals on the output pins of a component after it has acted on inputs. -/
def respond (m : Moment) (c : Component) (inputs : Pins) : Pins :=
  ({ c with inputs }.act m).component.outputs

/-- What a combinational kind emits depends on settings, inputs and a literal only. -/
theorem ofKind_outputs_congr {k : Kind} (h : k.isCombinational = true) {id value value' : Value}
    {settings : Record} {inputs : Pins} {m m' : Moment} {state state' : k.shape.State}
    (literal : k.literal?.isSome = true → value' = value) :
    (Reaction.ofKind ⟨id, settings, inputs, value', m'⟩ k state').outputs =
      (Reaction.ofKind ⟨id, settings, inputs, value, m⟩ k state).outputs := by
  -- only a constant reads its value
  cases k with
  | constant => rw [literal rfl]; rfl
  | _ => first | rfl | cases h

theorem respond_congr (combinational : x.type.isCombinational = true)
    (same : y.fixture = x.fixture) (m m' : Moment) (inputs : Pins) :
    y.respond m' inputs = x.respond m inputs := by
  obtain ⟨id, type, settings, value, ins, outs, state⟩ := x
  obtain ⟨id', type', settings', value', ins', outs', state'⟩ := y
  simp only [fixture, Fixture.mk.injEq] at same
  obtain ⟨rfl, rfl, rfl, literal⟩ := same
  cases type' with
  | foreign t => cases combinational
  | known k =>
    have outputs : (Reaction.ofKind ⟨id', settings', inputs, value', m'⟩ k state').outputs =
        (Reaction.ofKind ⟨id', settings', inputs, value, m⟩ k state).outputs :=
      ofKind_outputs_congr combinational fun h => by
        simpa [ComponentType.literal?, h] using literal
    unfold respond
    rw [act_component, act_component]
    dsimp only [emitted, react]
    rw [outputs]
    rfl

/-! ## §2 The Turn -/

theorem limitHistory_of_stateless (h : c.type.shape = .stateless) (limit : Nat) :
    c.limitHistory limit = (.ok (), c) := by
  obtain ⟨id, type, settings, value, inputs, outputs, state⟩ := c
  cases type with
  | foreign t => rfl
  | known k => cases k <;> first | rfl | cases h

theorem shape_of_isCombinational (h : c.type.isCombinational = true) :
    c.type.shape = .stateless := by
  cases type : c.type with
  | foreign t => rfl
  | known k =>
    rw [type] at h
    exact eq_of_beq (Bool.and_eq_true_iff.1 h).1

/-- The turn of a combinational component does not end the tick, and ends with its response. -/
theorem turn_of_isCombinational (h : c.type.isCombinational = true) (m : Moment) (inputs : Pins) :
    (c.turn m (.ok inputs)).fault = none ∧
      (c.turn m (.ok inputs)).component.outputs = c.respond m inputs := by
  have limited := limitHistory_of_stateless (c := { c with inputs }) (shape_of_isCombinational h)
    m.settings.historyLimit
  rcases turn_ok m inputs c with ⟨e, failed, -⟩ | ⟨-, acted⟩
  · rw [limited] at failed
    cases failed
  · rw [acted, limited]
    exact ⟨act_fault m _, rfl⟩

end Component

end TickCircuit

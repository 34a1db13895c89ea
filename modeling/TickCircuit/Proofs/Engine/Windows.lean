import TickCircuit.Proofs.Reaction.Recording
import TickCircuit.Proofs.Session.States

/-!
# Windows in a Run

After calls with a window of fixed length a history holds what the last call tells, and always the sample of
that call (`History.samples_recorded`). In a circuit the limit of the histories is set in every tick before
the components react, and no reaction changes it; so after a tick every history has the limit of the settings,
and no more samples than that (`windows_hold`).
-/

namespace TickCircuit

/-! ## §1 Components -/

namespace Component

variable {c : Component} {m : Moment} {h : History}

/-- The history of a component that has one. -/
def history? (c : Component) : Option History := c.type.shape.history? c.state

theorem InReach.withinLimit (reached : c.InReach) (shown : c.history? = some h) : h.WithinLimit := by
  obtain ⟨id, type, settings, value, inputs, outputs, state⟩ := c
  cases type with
  | known k => exact Reaction.Reached.withinLimit reached shown
  | foreign t => cases shown

theorem limit_react (shown : (c.react m).1.history? = some h) :
    ∃ before, c.history? = some before ∧ h.limit = before.limit := by
  obtain ⟨id, type, settings, value, inputs, outputs, state⟩ := c
  cases type with
  | known k =>
    obtain ⟨before, shownBefore, rfl | ⟨v, window, rfl⟩⟩ := Reaction.history_react _ shown
    · exact ⟨_, shownBefore, rfl⟩
    · exact ⟨before, shownBefore, rfl⟩
  | foreign t => cases shown

theorem history?_limitHistory (limit : ℕ) (c : Component) :
    (c.limitHistory limit).2.history? = c.history?.map fun h => (h.setLimit limit).2 :=
  Shape.history?_limitState limit

/-- **Step**: after its turn a component has the limit of the settings. -/
theorem limit_turn {inputs : Except Fault Pins} (whole : (c.turn m inputs).fault = none)
    (shown : (c.turn m inputs).component.history? = some h) : h.limit = m.settings.historyLimit := by
  cases inputs with
  | error e => cases whole
  | ok pins =>
    rcases turn_ok m pins c with ⟨e, -, refused⟩ | ⟨-, acts⟩
    · rw [refused] at whole
      cases whole
    · -- the limit is set before the component reacts
      rw [acts, act_component] at shown
      obtain ⟨before, limited, same⟩ := limit_react shown
      rw [history?_limitHistory, Option.map_eq_some_iff] at limited
      obtain ⟨earlier, -, rfl⟩ := limited
      rw [same, History.setLimit_limit]

end Component

/-! ## §2 Windows -/

/-- After a tick that goes through, every history has the limit of the settings and no more samples. -/
theorem Engine.limit_tick {e : Engine} {c : Circuit} (reached : c.InReach) (whole : (e.tick c).fault = none)
    {x : Value × Component} (member : x ∈ (e.tick c).circuit.components) {h : History}
    (shown : x.2.history? = some h) :
    h.limit = e.settings.historyLimit ∧ h.samples.length ≤ e.settings.historyLimit := by
  have within := (Engine.tick_inReach reached e x member).withinLimit shown
  obtain ⟨winners, hw⟩ := winners_of_tick whole
  rw [tick_components hw whole] at member
  obtain ⟨y, before, rfl⟩ := List.mem_map.1 member
  have limit := Component.limit_turn (turnOf_fault hw whole before) shown
  change h.limit = e.settings.historyLimit at limit
  have room := within.room
  have capacity := within.capacity
  exact ⟨limit, by omega⟩

/-- **Windows**: after every call of a run with a window of fixed length, whose times and cutoffs do not go back,
a history holds the samples of the last calls that its limit has room for and that are not below the last
cutoff, and nothing else. The last call is among them, so the mean that it gives is one of at least one sample,
and of no more samples than the limit says. After every tick that goes through, each history in a circuit has
the limit of the settings, and no more samples than that. -/
theorem History.windows_hold :
    (∀ (limit : ℕ) (values : ℕ → Value) (times : ℕ → Float) (window : Number) (n : ℕ), 1 ≤ limit →
      (Number.int 0).lt window = true → Advancing times window n →
        let left := retained limit times window n
        (recorded limit values times window (n + 1)).samples =
            left.map (fun i => ⟨values i, .real (times i)⟩) ∧
          n ∈ left ∧ left.length ≤ limit ∧
          ∀ numbers : ℕ → Float, (∀ i ≤ n, (values i).toFloat = .ok (numbers i)) →
            ((recorded limit values times window n).windowedMean (values n) (.real (times n)) window).1 =
              .ok (Mean.mean (left.map numbers))) ∧
      ∀ (e : Engine) (c : Circuit), c.InReach → (e.tick c).fault = none →
        ∀ x ∈ (e.tick c).circuit.components, ∀ h, x.2.history? = some h →
          h.limit = e.settings.historyLimit ∧ h.samples.length ≤ e.settings.historyLimit := by
  refine ⟨fun limit values times window n room positive advancing => ?_, fun e c reached whole x member h shown =>
    e.limit_tick reached whole member shown⟩
  exact ⟨samples_recorded advancing, mem_retained room positive, length_retained_le advancing,
    fun numbers read => mean_recorded limit advancing read⟩

/-- A window of a quarter of a second over six ticks of a tenth, and an adder that starts with the standard
limit. -/
theorem History.windows_hold_of_adder :
    let times : ℕ → Float := fun i => Binary.ofInt (100 * i)
    let adder : Component := ⟨.text "A", .known .adder, [], .null, [], [], History.empty History.standardLimit⟩
    let circuit : Circuit := ⟨[(.text "A", adder)], [], .object [], .int 0⟩
    let engine : Engine := ⟨{ EngineSettings.standard with historyLimit := 3 }, 100.0, 0, 0.0, [], .empty, []⟩
    (recorded 4 (fun i => .int i) times (.real 0.25) 6).samples =
        [3, 4, 5].map (fun i => ⟨.int (i : ℕ), .real (times i)⟩) ∧
      ∀ x ∈ (engine.tick circuit).circuit.components, ∀ h, x.2.history? = some h → h.limit = 3 := by
  intro times adder circuit engine
  have advancing : Advancing times (.real 0.25) 5 := by
    constructor <;> decide +kernel
  have left : retained 4 times (.real 0.25) 5 = [3, 4, 5] := by decide +kernel
  have held := (windows_hold.1 4 (fun i => .int i) times (.real 0.25) 5 (by decide) (by decide +kernel)
    advancing).1
  rw [left] at held
  have starts : Kind.adder.shape.initial [] = .ok (History.empty History.standardLimit) := rfl
  have reached : circuit.InReach := List.forall_mem_singleton.2 (.initial starts)
  exact ⟨held, fun x member h shown => (windows_hold.2 engine circuit reached rfl x member h shown).1⟩

end TickCircuit

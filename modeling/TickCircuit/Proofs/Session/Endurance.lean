import TickCircuit.Proofs.Component.Windows
import TickCircuit.Proofs.Number.Range
import TickCircuit.Proofs.Session.Calls

/-!
# Ticks that Always Go Through

A circuit that was built by calls gives a tick only one way to end in a fault: a history refuses the
limit of the settings. It takes every limit within 64 bits. So an engine whose settings hold such a
limit never stops, whatever is done with it (`performAll_endures`), and an engine can be started with
every length of a tick that a `Float` can hold.

The settings that are read from a document are checked from below only: a whole number can be as large
as it likes (`unbounded_settings_stop`).
-/

namespace TickCircuit

/-! ## §1 Ticks -/

theorem History.setLimit_ok {limit : Nat} (bounded : limit < 2 ^ 63) (h : History) :
    (h.setLimit limit).1 = .ok () := by
  unfold setLimit
  rw [capacity?_natCast, if_pos bounded]
  split <;> rfl

theorem Component.limitHistory_ok {limit : Nat} (bounded : limit < 2 ^ 63) (c : Component) :
    (c.limitHistory limit).1 = .ok () := by
  have accepted (s : Shape) (state : s.State) : (limitState limit s state).1 = .ok () := by
    cases s with
    | window => exact History.setLimit_ok bounded state
    | _ => rfl
  exact accepted c.type.shape c.state

/-- A tick of a lawful circuit goes through if the limit of the histories is within 64 bits. -/
theorem Engine.tick_endures {e : Engine} {c : Circuit} (lawful : c.Lawful)
    (bounded : e.settings.historyLimit < 2 ^ 63) : (e.tick c).fault = none := by
  obtain ⟨winners, hw, turn⟩ := turnOf_of_lawful lawful e
  rw [tick_fault hw, sweep_fault_eq_none_iff]
  intro x hx
  rw [turn x hx]
  rcases Component.turn_ok (e.advanced.moment c) _ x.2 with ⟨fault, refused, -⟩ | ⟨-, acts⟩
  · have accepted := Component.limitHistory_ok bounded { x.2 with
      inputs := x.2.type.inputPins.map fun pin => (pin, c.delivered e.published x.2.id pin) }
    rw [show (e.advanced.moment c).settings.historyLimit = e.settings.historyLimit from rfl,
      accepted] at refused
    cases refused
  · rw [acts, Component.act_fault]

/-! ## §2 Sessions -/

/-- An engine can be started if the length of a tick fits into a `Float`. -/
theorem Engine.exists_start {s : EngineSettings}
    (fits : ∀ n, s.tickInterval = .int n → n.natAbs < 2 ^ 1024 - 2 ^ 970) :
    ∃ engine, Engine.start s = .ok engine ∧ engine.settings = s := by
  unfold start
  cases interval : s.tickInterval with
  | int n =>
    dsimp only
    rw [if_pos (Binary.holdsInt_iff.2 (fits n interval))]
    exact ⟨_, rfl, rfl⟩
  | real x => exact ⟨_, rfl, rfl⟩

namespace Session

/-- **Endurance**: with settings that were read from a table of fields, an engine can be started, and
after any sequence of calls on a session that starts with the empty circuit its next tick goes
through. This takes that a length of a tick given as a whole number fits into a `Float`, and that the
limit of the histories is within 64 bits. -/
theorem performAll_endures (r : Record)
    (fits : ∀ n, (EngineSettings.ofRecord r).1.tickInterval = .int n →
      n.natAbs < 2 ^ 1024 - 2 ^ 970)
    (bounded : (EngineSettings.ofRecord r).1.historyLimit < 2 ^ 63) :
    ∃ engine, Engine.start (EngineSettings.ofRecord r).1 = .ok engine ∧
      ∀ observers calls,
        let now := (start .empty engine observers).performAll calls
        (now.engine.tick now.circuit).fault = none := by
  obtain ⟨engine, started, settings⟩ := Engine.exists_start fits
  refine ⟨engine, started, fun observers calls => ?_⟩
  intro now
  have integral : now.circuit.Integral :=
    performAll_integral (s := start .empty engine observers) Circuit.integral_empty calls
  obtain ⟨deeds, did⟩ := performAll_deeds (start .empty engine observers) calls
  -- no deed changes the settings with which the engine was started
  have kept : now.engine.settings = (EngineSettings.ofRecord r).1 := by
    have engineNow : now.engine = ((start .empty engine observers).bench.after deeds).engine :=
      congrArg Bench.engine did
    rw [engineNow, Bench.after_settings]
    exact settings
  exact Engine.tick_endures integral.lawful (by rw [kept]; exact bounded)

/-- Short histories and short ticks. -/
theorem performAll_endures_at_pace :
    let r := Record.ofFields [("tick_interval_ms", .int 50), ("history_limit", .int 5)]
    (∀ n, (EngineSettings.ofRecord r).1.tickInterval = .int n → n.natAbs < 2 ^ 1024 - 2 ^ 970) ∧
      (EngineSettings.ofRecord r).1.historyLimit < 2 ^ 63 ∧
      ∃ engine, Engine.start (EngineSettings.ofRecord r).1 = .ok engine ∧
        ∀ observers calls,
          let now := (start .empty engine observers).performAll calls
          (now.engine.tick now.circuit).fault = none := by
  intro r
  have fits : ∀ n, (EngineSettings.ofRecord r).1.tickInterval = .int n →
      n.natAbs < 2 ^ 1024 - 2 ^ 970 := by
    intro n interval
    have same : (EngineSettings.ofRecord r).1.tickInterval = .int 50 := rfl
    cases same.symm.trans interval
    exact Binary.holdsInt_iff.1 (by decide)
  have bounded : (EngineSettings.ofRecord r).1.historyLimit < 2 ^ 63 := by
    have same : (EngineSettings.ofRecord r).1.historyLimit = 5 := rfl
    rw [same]
    decide
  exact ⟨fits, bounded, performAll_endures r fits bounded⟩

/-- Settings that are accepted without a warning and yet stop the engine: a tick that is too long for
a `Float`, and a limit that is too large for the history of an adder. -/
theorem unbounded_settings_stop :
    let long := EngineSettings.ofRecord (Record.ofFields [("tick_interval_ms", .int ((2 ^ 256) ^ 4))])
    let large := EngineSettings.ofRecord (Record.ofFields [("history_limit", .int (2 ^ 63))])
    long.2 = [] ∧ Engine.start long.1 = .error .intToFloat ∧
      large.2 = [] ∧ ∃ engine, Engine.start large.1 = .ok engine ∧
        let now := (start .empty engine []).performAll [
          .edit (.addComponent (.text "Adder") .null .null)]
        (now.engine.tick now.circuit).fault = some .hugeLimit := by
  intro long large
  have interval : long.1.tickInterval = .int ((2 ^ 256) ^ 4) := rfl
  have tooLong : Binary.holdsInt ((2 ^ 256) ^ 4) = false := by decide +kernel
  refine ⟨rfl, ?_, rfl, _, rfl, rfl⟩
  rw [Engine.start, interval]
  dsimp only
  rw [tooLong]
  rfl

end Session

end TickCircuit

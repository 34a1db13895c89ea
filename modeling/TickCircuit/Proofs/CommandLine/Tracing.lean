import TickCircuit.CommandLine.Simulation
import TickCircuit.Proofs.Engine.Tick
import TickCircuit.Proofs.Outcome

/-!
# Traced Simulations

The trace of a simulation is kept beside its run (`follow_run`). So a traced simulation reports what one
that is not traced reports, and the trace besides; and what the trace says about a tick is what a
simulation that ends with this tick reports (`simulate_traced`).
-/

namespace TickCircuit.CommandLine

variable {e : Engine} {c : Circuit} {n : ℕ}

/-! ## §1 Following a Run -/

/-- What is kept beside a run has no part in it. -/
theorem follow_run (e : Engine) (c : Circuit) (n : ℕ) : (follow e c n).1 = e.run c n := by
  induction n generalizing e c with
  | zero => rfl
  | succ n ih =>
    rw [follow, Engine.run]
    dsimp only
    split
    · rfl
    · rw [← ih]

/-- The readings after the last tick of a run. -/
def lastFrame (e : Engine) (c : Circuit) (n : ℕ) : Frame :=
  let last := e.run c n
  ⟨last.engine.ticks, readings last.circuit⟩

/-- What is kept after a tick is what a run up to this tick ends with. -/
theorem follow_frames (whole : (e.run c n).fault = none) :
    (follow e c n).2 = (List.range n).map fun k => lastFrame e c (k + 1) := by
  induction n generalizing e c with
  | zero => rfl
  | succ n ih =>
    have first : (e.tick c).fault = none := by
      have one := Engine.run_of_le (Nat.succ_pos n) whole
      cases ended : (e.tick c).fault with
      | none => rfl
      | some fault =>
        rw [Engine.run_of_fault (by rw [ended]; rfl), ended] at one
        cases one
    -- a run from the first tick on is a run that is one tick longer from the start
    have later (k : ℕ) : lastFrame (e.tick c).engine (e.tick c).circuit k = lastFrame e c (k + 1) := by
      rw [lastFrame, lastFrame, Engine.run_of_no_fault first]
    rw [Engine.run_of_no_fault first] at whole
    rw [follow, first, List.range_succ_eq_map, List.map_cons, List.map_map]
    simp only [Option.isSome_none, Bool.false_eq_true, if_false, ih whole, later]
    exact congrArg (· :: _) (later 0)

/-! ## §2 Simulations -/

/-- What is reported after ticks that have gone through. -/
def reportOn (e : Engine) (c : Circuit) (n : ℕ) (traced : Bool) : Report :=
  let last := e.run c n
  ⟨last.engine.ticks, last.engine.elapsed, readings last.circuit,
    if traced then some ((List.range n).map fun k => lastFrame e c (k + 1)) else none⟩

/-- A simulation reports just when its ticks go through. -/
theorem simulateOn_eq_ok_iff {traced : Bool} {report : Report} :
    (simulateOn e n traced c).result = .ok report ↔
      (e.run c n).fault = none ∧ report = reportOn e c n traced := by
  unfold simulateOn
  dsimp only
  rw [follow_run]
  cases ended : (e.run c n).fault with
  | some fault => simp
  | none =>
    rw [follow_frames ended]
    simp only [Except.ok.injEq, true_and]
    exact eq_comm

/-- What is the trace of a simulation that reports. It has an entry for every tick; it is reported when the
simulation is traced, and all else in the report is the same when it is not; and its entry for a tick has the
values that a simulation reports which is over after this tick. -/
structure IsTrace (o : RunOptions) (loaded : EngineSettings) (c : Circuit) (report : Report)
    (frames : List Frame) : Prop where
  ticks : report.ticks = o.ticks.toNat ∧ frames.map (·.tick) = List.range' 1 o.ticks.toNat
  beside : ∀ traced, (simulate { o with traced } loaded c).result =
    .ok { report with trace := if traced then some frames else none }
  parts : ∀ k (h : k < frames.length) traced, ∃ short,
    (simulate { o with ticks := (k + 1 : ℕ), traced } loaded c).result = .ok short ∧
      short.ticks = k + 1 ∧ short.values = frames[k].values

/-- **Tracing**: every simulation that reports has a trace. -/
theorem simulate_traced {o : RunOptions} {loaded : EngineSettings} {report : Report}
    (reported : (simulate o loaded c).result = .ok report) :
    ∃ frames, IsTrace o loaded c report frames := by
  let n := o.ticks.toNat
  cases started : startEngine (o.applyTo loaded) with
  | error fault =>
    rw [simulate, started] at reported
    cases reported
  | ok e =>
    -- neither the number of ticks nor the trace has a part in the start
    have simulated (ticks : ℤ) (traced : Bool) : simulate { o with ticks, traced } loaded c =
        simulateOn e ticks.toNat traced c := by
      have same : ({ o with ticks, traced } : RunOptions).applyTo loaded = o.applyTo loaded := rfl
      rw [simulate, same, started]
    rw [simulated o.ticks o.traced, simulateOn_eq_ok_iff] at reported
    obtain ⟨whole, rfl⟩ := reported
    obtain ⟨-, -, begun⟩ := Outcome.bind_eq_ok.1 started
    have fromZero {k : ℕ} (le : k ≤ n) : (e.run c k).engine.ticks = k := by
      rw [Engine.run_ticks (Engine.run_of_le le whole), Engine.start_ticks begun, Nat.zero_add]
    refine ⟨(List.range n).map fun k => lastFrame e c (k + 1), ⟨fromZero le_rfl, ?_⟩, ?_, ?_⟩
    · rw [List.range'_eq_map_range, List.map_map]
      refine List.map_congr_left fun k member => ?_
      exact (fromZero (List.mem_range.1 member)).trans (Nat.add_comm k 1)
    · intro traced
      rw [simulated o.ticks traced]
      exact simulateOn_eq_ok_iff.2 ⟨whole, rfl⟩
    · intro k h traced
      rw [List.length_map, List.length_range] at h
      refine ⟨reportOn e c (k + 1) traced, ?_, fromZero h, ?_⟩
      · rw [simulated]
        exact simulateOn_eq_ok_iff.2 ⟨Engine.run_of_le h whole, rfl⟩
      · rw [List.getElem_map, List.getElem_range]
        rfl

end TickCircuit.CommandLine

import TickCircuit.Proofs.Circuit.Mirror
import TickCircuit.Proofs.Session.Calls

/-!
# Starts and Stops

A start comes to one of four ends (`Starts`): what was asked for is refused and nothing happens; there is
no period for it, and then the tick has its new length and there is a timer all the same; a timer that runs
gets another period; or the run begins, and that is announced. A stop does nothing when there is no run
(`Stops`).
-/

namespace TickCircuit

/-- Whether a run begins or ends with an event, if it tells of either. -/
def Event.run? : Event → Option Bool
  | runStarted => some true
  | runStopped => some false
  | _ => none

/-- No edit tells of a start or a stop. -/
theorem Edit.events_run? (c : Circuit) (edit : Edit) : ∀ e ∈ (edit.apply c).events, e.run? = none := by
  by_cases cuts : ∃ id, edit = .disconnect id
  · obtain ⟨id, rfl⟩ := cuts
    change ∀ e ∈ (c.disconnect id).events, _
    rw [Circuit.disconnect_events]
    split <;> simp [Event.run?]
  · have ends := edit.ends c
    generalize edit.apply c = edited at ends
    cases ends with
    | disconnected events => exact absurd ⟨_, rfl⟩ cuts
    | removed found =>
      simp only [Edited.done, List.mem_append, List.mem_map, List.mem_singleton]
      rintro _ (⟨_, -, rfl⟩ | rfl) <;> rfl
    | _ => simp [Event.run?, Edited.done, Edited.failed]

theorem Engine.run_interval (e : Engine) (c : Circuit) (count : Nat) :
    (e.run c count).engine.interval = e.interval := by
  induction count generalizing e c with
  | zero => rfl
  | succ count ih =>
    have first := e.tick_interval c
    rw [Engine.run]
    dsimp only
    split
    · exact first
    · exact (ih _ _).trans first

namespace Session

/-! ## §1 Parts of a Start and of a Stop -/

/-- The session with another length of a tick. -/
def paced (s : Session) (interval : Float) : Session :=
  { s with engine := { s.engine with interval } }

/-- The session with a timer, which is created unless there is one. -/
def equipped (s : Session) : Session :=
  match s.timer with
  | some _ => s
  | none => { s with
      timer := some false
      trace := { s.trace with timerCalls := s.trace.timerCalls ++ [.create] ++ [.connect] } }

/-- All that may be new is the timer, and what it has been asked to do. -/
theorem exists_equipped (s : Session) : ∃ active timerCalls,
    s.equipped = { s with timer := some active, trace := { s.trace with timerCalls } } := by
  unfold equipped
  split
  · next active timer => exact ⟨active, s.trace.timerCalls, by rw [← timer]⟩
  · exact ⟨false, _, rfl⟩

/-- The session with a running timer of some period. -/
def driven (s : Session) (period : Int) : Session :=
  { s with
    timer := some true, running := true
    trace := { s.trace with timerCalls := s.trace.timerCalls ++ [.start period] } }

/-- The session with a timer that does not run. -/
def halted (s : Session) : Session :=
  { s with
    timer := some false, running := false
    trace := { s.trace with timerCalls := s.trace.timerCalls ++ [.stop] } }

def logged (s : Session) (entries : List Log.Entry) : Session :=
  { s with trace := { s.trace with log := s.trace.log ++ entries } }

/-- The report of a start. -/
def startEntry (asked : Value) : Log.Entry :=
  ⟨.info, .running, "Simulation started (tick interval " ++ asked.display ++ " ms)", none⟩

/-- The report of a stop. -/
def stopEntry (ticks : Nat) : Log.Entry :=
  ⟨.info, .running, "Simulation stopped after " ++ toString ticks ++ " ticks", none⟩

/-- The number that is asked for, and the length of a tick that it makes. -/
def accepted (present : Float) (asked : Value) : Except Fault (Number × Float) :=
  (positiveInterval (askedInterval present asked)).bind fun n => (floatOf n).map fun x => (n, x)

theorem accepted_eq_ok {present : Float} {asked : Value} {n : Number} {x : Float} :
    accepted present asked = .ok (n, x) ↔
      (askedInterval present asked).number? = some n ∧ n.le (.int 0) = false ∧ floatOf n = .ok x := by
  unfold accepted positiveInterval
  cases (askedInterval present asked).number? with
  | none => simp [Except.bind]
  | some m =>
    dsimp only
    split
    · next small =>
      refine ⟨fun taken => (by cases taken), ?_⟩
      rintro ⟨⟨⟩, positive, -⟩
      exact absurd (small.symm.trans positive) (by decide)
    · next positive =>
      -- what is left can fail in one way: there may be no `Float` for the number
      change (floatOf m).map (fun x => (m, x)) = .ok (n, x) ↔ _
      constructor
      · intro taken
        cases fits : floatOf m with
        | error e =>
          rw [fits] at taken
          cases taken
        | ok y =>
          rw [fits] at taken
          cases taken
          exact ⟨rfl, Bool.eq_false_iff.2 positive, fits⟩
      · rintro ⟨⟨⟩, -, fits⟩
        rw [fits]
        rfl

/-! ## §2 Their Ends -/

/-- The ends of a start, with its result and with the session that it leaves. -/
inductive Starts (s : Session) (asked : Value) : Except Fault Unit × Session → Prop where
  | refused {e : Fault} (refused : accepted s.engine.interval asked = .error e) :
      Starts s asked (.error e, s)
  | stalled {n : Number} {x : Float} {e : Fault} (taken : accepted s.engine.interval asked = .ok (n, x))
      (endless : timerPeriod n = .error e) : Starts s asked (.error e, (s.paced x).equipped)
  | retimed {n : Number} {x : Float} {period : Int}
      (taken : accepted s.engine.interval asked = .ok (n, x)) (timed : timerPeriod n = .ok period)
      (running : s.running = true) : Starts s asked (.ok (), (s.paced x).equipped.driven period)
  | begun {n : Number} {x : Float} {period : Int}
      (taken : accepted s.engine.interval asked = .ok (n, x)) (timed : timerPeriod n = .ok period)
      (idle : s.running = false) :
      Starts s asked ((announce .runStarted).run.run (((s.paced x).equipped.driven period).logged
        [startEntry (askedInterval s.engine.interval asked)]))

/-- What a start does once its interval is accepted and there is a timer. -/
def drive (n : Number) (entry : Log.Entry) : Action Unit := do
  askTimer (.start (← timerPeriod n))
  let wasRunning := (← get).running
  modify fun s => { s with timer := some true, running := true }
  if !wasRunning then
    note [entry]
    announce .runStarted

theorem drive_run (n : Number) (entry : Log.Entry) (s : Session) :
    (drive n entry).run.run s = match timerPeriod n with
      | .error e => (.error e, s)
      | .ok period =>
        if s.running then (.ok (), s.driven period)
        else (announce .runStarted).run.run ((s.driven period).logged [entry]) := by
  unfold drive
  rw [run_bind]
  cases timerPeriod n with
  | error e => rfl
  | ok period =>
    obtain ⟨_, _, _, _, running, _⟩ := s
    cases running <;> rfl

theorem startTimer_run (s : Session) (asked : Value) :
    (startTimer asked).run.run s = match accepted s.engine.interval asked with
      | .error e => (.error e, s)
      | .ok (n, x) => (drive n (startEntry (askedInterval s.engine.interval asked))).run.run
          (s.paced x).equipped := by
  have lifted {α : Type} (r : Except Fault α) (t : Session) : (r : Action α).run.run t = (r, t) := by
    cases r <;> rfl
  have got (t : Session) : (get : Action Session).run.run t = (.ok t, t) := rfl
  unfold startTimer accepted
  simp only [run_bind, got, lifted, Except.bind]
  cases positiveInterval (askedInterval s.engine.interval asked) with
  | error e => rfl
  | ok n =>
    dsimp only
    cases floatOf n with
    | error e => rfl
    | ok x =>
      -- whether a timer has to be created is all that is left to find out
      obtain ⟨_, _, _, timer, _, _⟩ := s
      cases timer <;> rfl

theorem startTimer_starts (s : Session) (asked : Value) :
    Starts s asked ((startTimer asked).run.run s) := by
  -- neither a new pace nor a timer makes a run
  have running (x : Float) : (s.paced x).equipped.running = s.running := by
    obtain ⟨_, _, equipped⟩ := exists_equipped (s.paced x)
    rw [equipped]
    rfl
  rw [startTimer_run]
  cases taken : accepted s.engine.interval asked with
  | error e => exact .refused taken
  | ok result =>
    obtain ⟨n, x⟩ := result
    dsimp only
    rw [drive_run, running]
    cases timed : timerPeriod n with
    | error e => exact .stalled taken timed
    | ok period =>
      cases going : s.running with
      | true => exact .retimed taken timed going
      | false => exact .begun taken timed going

/-- The ends of a stop. -/
inductive Stops (s : Session) : Except Fault Unit × Session → Prop where
  | ignored (idle : s.running = false) : Stops s (.ok (), s)
  | ended (running : s.running = true) :
      Stops s ((announce .runStopped).run.run (s.halted.logged [stopEntry s.engine.ticks]))

theorem stopTimer_stops (s : Session) : Stops s (stopTimer.run.run s) := by
  cases running : s.running with
  | true =>
    have ended := Stops.ended running
    obtain ⟨_, _, _, _, _, _⟩ := s
    cases running
    exact ended
  | false =>
    have ignored := Stops.ignored running
    obtain ⟨_, _, _, _, _, _⟩ := s
    cases running
    exact ignored

/-! ## §3 Announcements -/

/-- Nothing has changed but that more notices have been given, all of the one event, and that there are
other reports. -/
def Spoken (event : Event) (s t : Session) : Prop :=
  ∃ notices log, (∀ n ∈ notices, n.event = event) ∧
    t = { s with trace := { s.trace with notices := s.trace.notices ++ notices, log } }

namespace Spoken

variable {event : Event}

theorem refl (s : Session) : Spoken event s s :=
  ⟨[], s.trace.log, by simp, by rw [List.append_nil]⟩

theorem trans ⦃r s t : Session⦄ (h : Spoken event r s) (h' : Spoken event s t) : Spoken event r t := by
  obtain ⟨notices, log, all, rfl⟩ := h
  obtain ⟨more, log', all', rfl⟩ := h'
  exact ⟨notices ++ more, log', List.forall_mem_append.2 ⟨all, all'⟩, by rw [← List.append_assoc]⟩

end Spoken

theorem note_spoken (event : Event) (entries : List Log.Entry) : Moves (Spoken event) (note entries) :=
  fun s => ⟨[], _, by simp, by rw [List.append_nil]; rfl⟩

theorem tell_spoken (event : Event) (o : Observer) : Moves (Spoken event) (tell event o) :=
  Moves.tell Spoken.refl Spoken.trans o
    (fun s => ⟨[⟨o.name, event⟩], s.trace.log, by simp, rfl⟩) (note_spoken event)

theorem announce_spoken (event : Event) : Moves (Spoken event) (announce event) :=
  Moves.announce Spoken.refl Spoken.trans (tell_spoken event)

/-! ## §4 Calls That Neither Start Nor Stop -/

/-- The timer and the length of a tick are left alone, and nobody is told of a start or a stop. -/
def Quiet (s t : Session) : Prop :=
  ∃ circuit engine notices log, engine.interval = s.engine.interval ∧
    (∀ n ∈ notices, n.event.run? = none) ∧ t = { s with
      circuit, engine, trace := { s.trace with notices := s.trace.notices ++ notices, log } }

namespace Quiet

theorem refl (s : Session) : Quiet s s :=
  ⟨s.circuit, s.engine, [], s.trace.log, rfl, by simp, by rw [List.append_nil]⟩

theorem trans ⦃r s t : Session⦄ (h : Quiet r s) (h' : Quiet s t) : Quiet r t := by
  obtain ⟨_, _, notices, _, interval, all, rfl⟩ := h
  obtain ⟨circuit, engine, more, log, interval', all', rfl⟩ := h'
  exact ⟨circuit, engine, notices ++ more, log, interval'.trans interval,
    List.forall_mem_append.2 ⟨all, all'⟩, by rw [← List.append_assoc]⟩

theorem interval {s t : Session} (h : Quiet s t) : t.engine.interval = s.engine.interval := by
  obtain ⟨_, _, _, _, interval, -, rfl⟩ := h
  exact interval

end Quiet

theorem announce_quiet {event : Event} (passing : event.run? = none) : Moves Quiet (announce event) := by
  intro s
  obtain ⟨notices, log, all, spoken⟩ := announce_spoken event s
  exact ⟨s.circuit, s.engine, notices, log, rfl, fun n member => (all n member).symm ▸ passing, spoken⟩

theorem adopt_quiet {s : Session} {t : Ticked} (interval : t.engine.interval = s.engine.interval) :
    Quiet s (after (adopt t) s) := by
  have adopted : Quiet s { s with engine := t.engine, circuit := t.circuit } :=
    ⟨t.circuit, t.engine, [], s.trace.log, interval, by simp, by rw [List.append_nil]⟩
  have noted (end_ : Action Unit) (h : Moves Quiet end_) : Moves Quiet (note t.log >>= fun _ => end_) :=
    Moves.bind Quiet.trans
      (fun s => ⟨s.circuit, s.engine, [], _, rfl, by simp, by rw [List.append_nil]; rfl⟩) fun _ => h
  have ended : Quiet { s with engine := t.engine, circuit := t.circuit } (after (adopt t) s) := by
    unfold adopt
    cases t.fault with
    | none => exact noted (pure ()) Quiet.refl _
    | some fault => exact noted (throw fault) Quiet.refl _
  exact adopted.trans ended

theorem adopt_then_quiet {s : Session} {t : Ticked} (interval : t.engine.interval = s.engine.interval)
    {next : Unit → Action Unit} (h : ∀ x, Moves Quiet (next x)) :
    Quiet s (after (adopt t >>= next) s) := Moves.bind_from Quiet.trans (adopt_quiet interval) h

theorem step_quiet : Moves Quiet step := fun s =>
  adopt_then_quiet (s.engine.tick_interval s.circuit) fun _ =>
    Moves.bind Quiet.trans Quiet.refl fun _ => announce_quiet rfl

theorem runTicks_quiet (count : Nat) : Moves Quiet (runTicks count) :=
  Moves.runTicks Quiet.refl Quiet.trans step_quiet count

theorem runSilently_quiet (count : Nat) : Moves Quiet (runSilently count) := fun s =>
  adopt_quiet (s.engine.run_interval s.circuit count)

theorem reset_quiet : Moves Quiet reset := fun _ => adopt_then_quiet rfl fun _ => announce_quiet rfl

theorem timeOut_quiet (times : Nat) : Moves Quiet (timeOut times) :=
  Moves.timeOut Quiet.refl Quiet.trans step_quiet times

theorem forM_announce_quiet {events : List Event} (passing : ∀ e ∈ events, e.run? = none) :
    Moves Quiet (events.forM announce) := by
  induction events with
  | nil => exact Quiet.refl
  | cons e rest ih =>
    obtain ⟨first, others⟩ := List.forall_mem_cons.1 passing
    exact Moves.bind Quiet.trans (announce_quiet first) fun _ => ih others

theorem edit_quiet (e : Edit) : Moves Quiet (edit e.apply) := by
  intro s
  have changed : Quiet s { s with circuit := (e.apply s.circuit).circuit } :=
    ⟨_, s.engine, [], s.trace.log, rfl, by simp, by rw [List.append_nil]⟩
  have told : Moves Quiet
      (do (e.apply s.circuit).events.forM announce; (e.apply s.circuit).result : Action Value) :=
    Moves.bind Quiet.trans (forM_announce_quiet (e.events_run? s.circuit)) fun _ => by
      cases (e.apply s.circuit).result <;> exact Quiet.refl
  exact changed.trans (told _)

/-- A call by which no observer comes or goes. -/
def Call.KeepsObservers : Call → Prop
  | observe _ | unobserve _ => False
  | _ => True

theorem perform_quiet (s : Session) {call : Call} (keeps : call.KeepsObservers)
    (noStart : ∀ asked, call ≠ .startTimer asked) (noStop : call ≠ .stopTimer) :
    Quiet s (s.perform call) := by
  cases call with
  | edit e =>
    have edited : Moves Quiet (do let _ ← edit e.apply : Action Unit) :=
      Moves.bind Quiet.trans (edit_quiet e) fun _ => Quiet.refl
    exact edited s
  | step => exact step_quiet s
  | runTicks count => exact runTicks_quiet count s
  | runSilently count => exact runSilently_quiet count s
  | reset => exact reset_quiet s
  | timeOut times => exact timeOut_quiet times s
  | startTimer asked => exact absurd rfl (noStart asked)
  | stopTimer => exact absurd rfl noStop
  | observe _ | unobserve _ => exact keeps.elim

end Session

end TickCircuit

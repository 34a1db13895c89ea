import Mathlib
import TickCircuit.Proofs.Number.Rounding
import TickCircuit.Proofs.Session.Following
import TickCircuit.Proofs.Session.Starting

/-!
# The Timer of a Run

Three things say whether a run goes on: the session itself, its timer, and the last event by which
observers were told of a start or a stop. They agree after all calls, those that fail included
(`InStep.performAll`). There is at most one timer.

For the simulation a run that is interrupted is no different from one that is not: stops, and starts that
ask for no other interval, leave engine and circuit alone (`bench_of_pauses`), so every tick finds them as
the tick before has left them.
-/

namespace TickCircuit

/-- Whether the timer is active after a request, once there is one. -/
def TimerCall.leaves (active : Option Bool) : TimerCall → Option Bool
  | create => some false
  | connect => active
  | start _ => some true
  | stop => some false

namespace Session

/-- Whether the timer is active after what it was asked to do. -/
def timerAfter (calls : List TimerCall) : Option Bool := calls.foldl TimerCall.leaves none

/-- The starts and stops that an observer has been told of. -/
def runsOf (s : Session) (name : String) : List Bool := (s.eventsOf name).filterMap Event.run?

/-- Starts and stops alternate, and the first one is a start. -/
def Alternating (runs : List Bool) : Prop := (false :: runs).IsChain (· ≠ ·)

/-- The observer is told of everything: those in front fail only in ways that are logged. Notices are kept
by name, so nobody else has the same name. -/
def Reached (o : Observer) (observers : List Observer) : Prop :=
  ∃ front back, observers = front ++ o :: back ∧
    (∀ x ∈ front, x.name ≠ o.name ∧ ∀ kind, x.failure = some kind → isTolerated kind = true) ∧
      ∀ x ∈ back, x.name ≠ o.name

variable {s t : Session} {o : Observer} {event : Event}

/-! ## §1 What an Observer Hears -/

theorem tell_notices (event : Event) (o : Observer) (s : Session) :
    (after (tell event o) s).trace.notices = s.trace.notices ++ [⟨o.name, event⟩] := by
  -- the notice is given first; what comes after it concerns the log only
  let given : Session :=
    { s with trace := { s.trace with notices := s.trace.notices ++ [⟨o.name, event⟩] } }
  unfold tell
  cases o.failure with
  | none => rfl
  | some kind =>
    dsimp only
    change (after (if isTolerated kind then note [observerEntry event o.name]
      else throw (.observer kind o.name) : Action Unit) given).trace.notices = given.trace.notices
    split <;> rfl

theorem tell_eventsOf (event : Event) (o : Observer) (s : Session) (name : String) :
    (after (tell event o) s).eventsOf name =
      s.eventsOf name ++ if o.name = name then [event] else [] := by
  rw [eventsOf, tell_notices, List.filter_append, List.map_append]
  by_cases same : o.name = name <;> simp [eventsOf, same]

theorem forM_tell_eventsOf_of_others {observers : List Observer} {name : String}
    (others : ∀ x ∈ observers, x.name ≠ name) (s : Session) :
    (after (observers.forM (tell event)) s).eventsOf name = s.eventsOf name := by
  induction observers generalizing s with
  | nil => rfl
  | cons x rest ih =>
    obtain ⟨other, others⟩ := List.forall_mem_cons.1 others
    have unheard : (after (tell event x) s).eventsOf name = s.eventsOf name := by
      rw [tell_eventsOf, if_neg other, List.append_nil]
    exact Moves.bind_from (R := fun s t => t.eventsOf name = s.eventsOf name)
      (fun _ _ _ first second => second.trans first) unheard fun _ => ih others

/-- An observer hears an event once, unless somebody in front of them fails in a way that is not just
logged. -/
theorem forM_tell_eventsOf {front back : List Observer}
    (passes : ∀ x ∈ front, x.name ≠ o.name ∧ ∀ kind, x.failure = some kind → isTolerated kind = true)
    (others : ∀ x ∈ back, x.name ≠ o.name) (s : Session) :
    (after ((front ++ o :: back).forM (tell event)) s).eventsOf o.name = s.eventsOf o.name ++ [event] := by
  induction front generalizing s with
  | nil =>
    have heard : (after (tell event o) s).eventsOf o.name = s.eventsOf o.name ++ [event] := by
      rw [tell_eventsOf, if_pos rfl]
    rcases after_bind (tell event o) (fun _ => back.forM (tell event)) s with ⟨_, h⟩ | h
    · refine (congrArg (eventsOf · o.name) h).trans ?_
      rw [forM_tell_eventsOf_of_others others, heard]
    · exact (congrArg (eventsOf · o.name) h).trans heard
  | cons x rest ih =>
    obtain ⟨⟨other, tolerated⟩, passes⟩ := List.forall_mem_cons.1 passes
    have unheard : (after (tell event x) s).eventsOf o.name = s.eventsOf o.name := by
      rw [tell_eventsOf, if_neg other, List.append_nil]
    obtain ⟨t, run, -⟩ := tell_tells event tolerated s rfl
    have told : after (tell event x) s = t := congrArg Prod.snd run
    have goesOn : after ((x :: rest ++ o :: back).forM (tell event)) s =
        after ((rest ++ o :: back).forM (tell event)) t := by
      change ((tell event x >>= fun _ => (rest ++ o :: back).forM (tell event)).run.run s).2 = _
      rw [run_bind, run]
      rfl
    rw [goesOn, ih passes, ← told, unheard]

theorem announce_eventsOf (reached : Reached o s.observers) :
    (after (announce event) s).eventsOf o.name = s.eventsOf o.name ++ [event] := by
  obtain ⟨front, back, observers, passes, others⟩ := reached
  change (after (s.observers.forM (tell event)) s).eventsOf o.name = _
  rw [observers]
  exact forM_tell_eventsOf passes others s

theorem Quiet.runsOf (h : Quiet s t) (name : String) : t.runsOf name = s.runsOf name := by
  obtain ⟨_, _, notices, _, -, all, rfl⟩ := h
  have silent : ((notices.filter (·.observer == name)).map (·.event)).filterMap Event.run? = [] := by
    simp only [List.filterMap_eq_nil_iff, List.mem_map, List.mem_filter]
    rintro _ ⟨n, ⟨member, -⟩, rfl⟩
    exact all n member
  rw [Session.runsOf, eventsOf, List.filter_append, List.map_append, List.filterMap_append, silent,
    List.append_nil]
  rfl

/-! ## §2 Timer, Run and Observers in Step -/

/-- The timer is active exactly during a run, which is also what it was asked for; it was created and
connected once if there is one, and never otherwise. -/
structure Driven (s : Session) : Prop where
  active : (s.timer == some true) = s.running
  asked : timerAfter s.trace.timerCalls = s.timer
  created : s.trace.timerCalls.count .create = if s.timer.isSome then 1 else 0
  connected : s.trace.timerCalls.count .connect = if s.timer.isSome then 1 else 0

/-- Those who are told of everything have been told of starts and stops in turn, and last of what is now the
case. -/
def Informed (s : Session) (running : Bool) : Prop := ∀ o, Reached o s.observers →
  Alternating (s.runsOf o.name) ∧ (s.runsOf o.name).getLastD false = running

theorem timerAfter_concat (calls : List TimerCall) (call : TimerCall) :
    timerAfter (calls ++ [call]) = call.leaves (timerAfter calls) := List.foldl_concat ..

theorem Alternating.concat {runs : List Bool} (alternating : Alternating runs) {b : Bool}
    (turns : runs.getLastD false ≠ b) : Alternating (runs ++ [b]) := by
  unfold Alternating
  rw [← List.cons_append, List.isChain_append]
  refine ⟨alternating, List.isChain_singleton b, fun x last y first => ?_⟩
  rw [List.getLast?_cons, Option.mem_some_iff, ← List.getLastD_eq_getLast?] at last
  rw [List.head?_cons, Option.mem_some_iff] at first
  rwa [← last, ← first]

theorem Informed.quiet {running : Bool} (informed : Informed s running) (quiet : Quiet s t) :
    Informed t running := by
  intro o reached
  rw [quiet.runsOf]
  obtain ⟨_, _, _, _, -, -, rfl⟩ := quiet
  exact informed o reached

namespace Driven

theorem paced (h : Driven s) (x : Float) : Driven (s.paced x) :=
  ⟨h.active, h.asked, h.created, h.connected⟩

theorem equipped (h : Driven s) : Driven s.equipped := by
  unfold Session.equipped
  cases timer : s.timer with
  | some active => exact h
  | none =>
    obtain ⟨active, asked, created, connected⟩ := h
    rw [timer] at active asked created connected
    refine ⟨active, ?_, ?_, ?_⟩
    · change timerAfter (s.trace.timerCalls ++ [.create] ++ [.connect]) = some false
      rw [timerAfter_concat, timerAfter_concat]
      rfl
    · simp [created]
    · simp [connected]

theorem driven (h : Driven s) (there : s.timer.isSome = true) (period : Int) : Driven (s.driven period) := by
  refine ⟨rfl, timerAfter_concat .., ?_, ?_⟩
  · simp [Session.driven, h.created, there]
  · simp [Session.driven, h.connected, there]

theorem halted (h : Driven s) (running : s.running = true) : Driven s.halted := by
  have active := h.active
  have there : s.timer.isSome = true := by
    cases timer : s.timer with
    | some _ => rfl
    | none =>
      rw [timer, running] at active
      cases active
  refine ⟨rfl, timerAfter_concat .., ?_, ?_⟩
  · simp [Session.halted, h.created, there]
  · simp [Session.halted, h.connected, there]

theorem logged (h : Driven s) (entries : List Log.Entry) : Driven (s.logged entries) :=
  ⟨h.active, h.asked, h.created, h.connected⟩

theorem quiet (h : Driven s) (quiet : Quiet s t) : Driven t := by
  obtain ⟨_, _, _, _, -, -, rfl⟩ := quiet
  exact ⟨h.active, h.asked, h.created, h.connected⟩

end Driven

/-- The observers are still these, and what they have been told, the timer and the run agree. -/
structure InStep (observers : List Observer) (s : Session) : Prop where
  same : s.observers = observers
  driven : Driven s
  informed : Informed s s.running

namespace InStep

variable {observers : List Observer}

/-- A session that has started or stopped is in step again when that has been announced. -/
theorem announced {b : Bool} (same : s.observers = observers) (driven : Driven s) (turned : s.running = b)
    (informed : Informed s (!b)) (tells : event.run? = some b) :
    InStep observers (after (announce event) s) := by
  obtain ⟨notices, log, -, spoken⟩ := announce_spoken event s
  have heard (o : Observer) (reached : Reached o s.observers) :
      (after (announce event) s).runsOf o.name = s.runsOf o.name ++ [b] := by
    rw [runsOf, announce_eventsOf reached, List.filterMap_append]
    simp [runsOf, tells]
  rw [spoken] at heard ⊢
  refine ⟨same, ⟨driven.active, driven.asked, driven.created, driven.connected⟩, fun o reached => ?_⟩
  obtain ⟨alternating, last⟩ := informed o reached
  rw [heard o reached]
  refine ⟨alternating.concat ?_, ?_⟩
  · rw [last]
    cases b <;> decide
  · rw [List.getLastD_concat]
    exact turned.symm

theorem startTimer (h : InStep observers s) (asked : Value) :
    InStep observers (after (startTimer asked) s) := by
  -- with another tick length and with a timer nobody has been told of anything yet
  have ready (x : Float) : InStep observers (s.paced x).equipped ∧
      (s.paced x).equipped.running = s.running ∧ (s.paced x).equipped.timer.isSome = true := by
    have driven := (h.driven.paced x).equipped
    obtain ⟨_, _, equipped⟩ := exists_equipped (s.paced x)
    rw [equipped] at driven ⊢
    exact ⟨⟨h.same, driven, h.informed⟩, rfl, rfl⟩
  have ends := startTimer_starts s asked
  unfold after
  generalize (Session.startTimer asked).run.run s = result at ends
  cases ends with
  | refused => exact h
  | @stalled n x e taken endless => exact (ready x).1
  | @retimed n x period taken timed running =>
    obtain ⟨⟨same, driven, informed⟩, goesOn, there⟩ := ready x
    rw [goesOn, running] at informed
    exact ⟨same, driven.driven there period, informed⟩
  | @begun n x period taken timed idle =>
    obtain ⟨⟨same, driven, informed⟩, goesOn, there⟩ := ready x
    rw [goesOn, idle] at informed
    exact announced same ((driven.driven there period).logged _) rfl informed rfl

theorem stopTimer (h : InStep observers s) : InStep observers (after stopTimer s) := by
  have ends := stopTimer_stops s
  unfold after
  generalize Session.stopTimer.run.run s = result at ends
  cases ends with
  | ignored => exact h
  | ended running =>
    have informed := h.informed
    rw [running] at informed
    exact announced h.same ((h.driven.halted running).logged _) rfl informed rfl

/-- **Step**: a call by which no observer comes or goes leaves timer, run and observers in step. -/
theorem perform (h : InStep observers s) {call : Call} (keeps : call.KeepsObservers) :
    InStep observers (s.perform call) := by
  by_cases starts : ∃ asked, call = .startTimer asked
  · obtain ⟨asked, rfl⟩ := starts
    exact h.startTimer asked
  by_cases stops : call = .stopTimer
  · rw [stops]
    exact h.stopTimer
  have quiet := perform_quiet s keeps (not_exists.1 starts) stops
  have kept : (s.perform call).observers = s.observers ∧ (s.perform call).running = s.running := by
    obtain ⟨_, _, _, _, -, -, same⟩ := quiet
    rw [same]
    exact ⟨rfl, rfl⟩
  exact ⟨kept.1.trans h.same, h.driven.quiet quiet, kept.2 ▸ h.informed.quiet quiet⟩

/-- **Run**: so it is after any such calls. -/
theorem performAll (h : InStep observers s) {calls : List Call}
    (keeps : ∀ call ∈ calls, call.KeepsObservers) : InStep observers (s.performAll calls) := by
  induction calls generalizing s with
  | nil => exact h
  | cons call rest ih =>
    obtain ⟨first, others⟩ := List.forall_mem_cons.1 keeps
    exact ih (h.perform first) others

end InStep

theorem inStep_start (circuit : Circuit) (engine : Engine) (observers : List Observer) :
    InStep observers (start circuit engine observers) :=
  ⟨rfl, ⟨rfl, rfl, rfl, rfl⟩, fun _ _ => ⟨List.isChain_singleton false, rfl⟩⟩

/-! ## §3 Pauses -/

/-- A start that asks for no other interval than the present one. -/
def AsksToGoOn (present : Float) (asked : Value) : Prop :=
  asked = .null ∨ ∃ n, asked.number? = some n ∧ (n = .real present ∨ n.eq (.real present) = true)

/-- A positive number that is equal to a `Float` makes a tick of just that length. -/
theorem floatOf_of_eq {n : Number} {x y : Float} (positive : n.le (.int 0) = false)
    (fits : floatOf n = .ok x) (same : n.eq (.real y) = true) : x = y := by
  obtain ⟨u, value, value'⟩ := Number.eq_iff_exact.1 same
  have nonzero : u ≠ .units 0 := by
    rintro rfl
    have zero : n.eq (.int 0) = true :=
      Number.eq_iff_exact.2 ⟨_, value, congrArg some Exact.ofInt_zero⟩
    rw [Number.le, Bool.or_eq_false_iff] at positive
    exact absurd (zero.symm.trans positive.2) (by decide)
  cases n with
  | int k =>
    cases value
    have other : k ≠ 0 := fun zero => nonzero (zero ▸ Exact.ofInt_zero)
    rw [floatOf] at fits
    split at fits
    · cases fits
      exact Binary.ofInt_of_exactValue? other value'
    · cases fits
  | real z =>
    cases fits
    exact Binary.eq_of_exactValue? value value' nonzero

theorem accepted_of_asksToGoOn {present : Float} {asked : Value} (goesOn : AsksToGoOn present asked)
    {n : Number} {x : Float} (taken : accepted present asked = .ok (n, x)) : x = present := by
  obtain ⟨number, positive, fits⟩ := accepted_eq_ok.1 taken
  rcases goesOn with rfl | ⟨m, given, same⟩
  · cases number
    cases fits
    rfl
  · have asks : askedInterval present asked = asked := by
      cases asked with
      | null => cases given
      | _ => rfl
    rw [asks, given] at number
    cases number
    rcases same with rfl | equal
    · cases fits
      rfl
    · exact floatOf_of_eq positive fits equal

/-- A call by which a run is interrupted or goes on. -/
def Call.Pauses (present : Float) : Call → Prop
  | stopTimer => True
  | startTimer asked => AsksToGoOn present asked
  | _ => False

def Call.isStep : Call → Bool
  | step => true
  | _ => false

theorem Spoken.bench (h : Spoken event s t) : t.bench = s.bench := by
  obtain ⟨notices, log, -, rfl⟩ := h
  rfl

/-- An interruption is none for the simulation. -/
theorem bench_of_pauses {call : Call} (pauses : call.Pauses s.engine.interval) :
    (s.perform call).bench = s.bench := by
  cases call with
  | stopTimer =>
    have ends := stopTimer_stops s
    change (Session.stopTimer.run.run s).2.bench = s.bench
    generalize Session.stopTimer.run.run s = result at ends
    cases ends with
    | ignored => rfl
    | ended => exact (announce_spoken .runStopped _).bench
  | startTimer asked =>
    have ends := startTimer_starts s asked
    change ((startTimer asked).run.run s).2.bench = s.bench
    generalize (startTimer asked).run.run s = result at ends
    -- what is asked for is the present length of a tick
    have paced {n : Number} {x : Float} (taken : accepted s.engine.interval asked = .ok (n, x)) :
        (s.paced x).equipped.bench = s.bench := by
      obtain ⟨_, _, equipped⟩ := exists_equipped (s.paced x)
      rw [equipped, accepted_of_asksToGoOn pauses taken]
      rfl
    cases ends with
    | refused => rfl
    | stalled taken => exact paced taken
    | retimed taken => exact paced taken
    | begun taken => exact (announce_spoken .runStarted _).bench.trans (paced taken)
  | _ => cases pauses

/-- Engine and circuit after each tick that is called for. -/
def benches (s : Session) : List Call → List Bench
  | [] => []
  | call :: rest =>
    let t := s.perform call
    if call.isStep then t.bench :: t.benches rest else t.benches rest

end Session

namespace Bench

/-- Engine and circuit after each of some ticks. -/
def ticked (b : Bench) : Nat → List Bench
  | 0 => []
  | count + 1 => b.undergo .tick :: (b.undergo .tick).ticked count

end Bench

namespace Session

variable {s : Session}

/-- Among interruptions, as many ticks as are called for follow one after the other. -/
theorem benches_of_pauses {calls : List Call}
    (pauses : ∀ call ∈ calls, call = .step ∨ call.Pauses s.engine.interval) :
    let count := calls.countP Call.isStep
    s.benches calls = s.bench.ticked count ∧
      (s.performAll calls).bench = s.bench.after (List.replicate count .tick) := by
  -- the pauses are those of the present length of a tick, which no call here changes
  induction calls generalizing s with
  | nil => exact ⟨rfl, rfl⟩
  | cons call rest ih =>
    obtain ⟨first, others⟩ := List.forall_mem_cons.1 pauses
    rcases first with rfl | interrupts
    · have ticked : (s.perform .step).bench = s.bench.undergo .tick := perform_step_bench s
      have interval : (s.perform .step).engine.interval = s.engine.interval :=
        (congrArg (·.engine.interval) ticked).trans (s.engine.tick_interval s.circuit)
      obtain ⟨each, last⟩ := ih (interval.symm ▸ others)
      rw [ticked] at each last
      rw [List.countP_cons_of_pos rfl]
      exact ⟨congrArg₂ List.cons ticked each, last⟩
    · have same : (s.perform call).bench = s.bench := bench_of_pauses interrupts
      have interval : (s.perform call).engine.interval = s.engine.interval :=
        congrArg (·.engine.interval) same
      have noStep : call.isStep = false := by
        cases call with
        | step => cases interrupts
        | _ => rfl
      obtain ⟨each, last⟩ := ih (interval.symm ▸ others)
      rw [same] at each last
      rw [List.countP_cons_of_neg (by rw [noStep]; decide), benches, noStep]
      exact ⟨each, last⟩

/-- **Timer**: in a session in which no observer comes or goes, whatever calls are made, and whether or
not they fail, starts and stops alternate for everyone who is told of everything, the run goes on exactly
if the last of them is a start, the timer is active exactly during the run, and there is never a second
timer. From then on interruptions among ticks make no difference to engine and circuit after any of the
ticks. -/
theorem timer_in_step (circuit : Circuit) (engine : Engine) (observers : List Observer)
    {calls more : List Call} (keeps : ∀ call ∈ calls, call.KeepsObservers) :
    let now := (start circuit engine observers).performAll calls
    (∀ o, Reached o observers → Alternating (now.runsOf o.name) ∧
        (now.runsOf o.name).getLastD false = now.running) ∧
      now.trace.timerCalls.count .create ≤ 1 ∧ now.trace.timerCalls.count .connect ≤ 1 ∧
      timerAfter now.trace.timerCalls = now.timer ∧ (now.timer == some true) = now.running ∧
      ((∀ call ∈ more, call = .step ∨ call.Pauses now.engine.interval) →
        now.benches more = now.benches (more.filter Call.isStep) ∧
          (now.performAll more).bench = (now.performAll (more.filter Call.isStep)).bench) := by
  intro now
  have inStep : InStep observers now := (inStep_start circuit engine observers).performAll keeps
  obtain ⟨same, ⟨active, asked, created, connected⟩, informed⟩ := inStep
  have once (calls : Nat) (h : calls = if now.timer.isSome then 1 else 0) : calls ≤ 1 := by
    rw [h]
    split <;> omega
  refine ⟨fun o reached => informed o (same.symm ▸ reached), once _ created, once _ connected,
    asked, active, fun pauses => ?_⟩
  obtain ⟨each, last⟩ := benches_of_pauses pauses
  have steps : ∀ call ∈ more.filter Call.isStep, call = .step ∨ call.Pauses now.engine.interval := by
    intro call member
    exact pauses call (List.mem_of_mem_filter member)
  obtain ⟨each', last'⟩ := benches_of_pauses steps
  rw [List.countP_filter] at each' last'
  simp only [Bool.and_self] at each' last'
  exact ⟨each.trans each'.symm, last.trans last'.symm⟩

/-- A run that is started, paced, refused and stopped. -/
def startsAndStops : List Call := [
  .edit (.addComponent (.text "Constant") .null .null),
  .stopTimer,
  .startTimer .null,
  .step,
  .startTimer (.int (-5)),
  .startTimer (.text "fast"),
  .stopTimer,
  .stopTimer,
  .startTimer (.int 50)]

/-- A run that is interrupted between its ticks. -/
def interruptedTicks : List Call := [
  .step, .stopTimer, .step, .startTimer .null, .startTimer (.real 50.0), .startTimer (.int 50), .step]

theorem startsAndStops_in_step :
    let now := (start .empty Engine.standardStart viewAndRecorder).performAll startsAndStops
    (∀ call ∈ startsAndStops, call.KeepsObservers) ∧
      (∀ call ∈ interruptedTicks, call = .step ∨ call.Pauses now.engine.interval) ∧
      Reached ⟨"view", none⟩ viewAndRecorder ∧ now.runsOf "view" = [true, false, true] ∧
      now.trace.timerCalls = [.create, .connect, .start 100, .stop, .start 50] ∧
      now.benches interruptedTicks = now.benches [.step, .step, .step] := by
  intro now
  have keeps : ∀ call ∈ startsAndStops, call.KeepsObservers := by
    simp [startsAndStops, Call.KeepsObservers]
  have interval : now.engine.interval = 50.0 := by rfl
  have pauses : ∀ call ∈ interruptedTicks, call = .step ∨ call.Pauses now.engine.interval := by
    have equal : (Number.int 50).eq (.real 50.0) = true := by rfl
    rw [interval]
    simp [interruptedTicks, Call.Pauses, AsksToGoOn, Value.number?, equal]
  refine ⟨keeps, pauses, ⟨[⟨"recorder", none⟩], [], rfl, by simp, by simp⟩, by rfl, by rfl, ?_⟩
  exact ((timer_in_step .empty Engine.standardStart viewAndRecorder keeps).2.2.2.2.2 pauses).1

end Session

end TickCircuit

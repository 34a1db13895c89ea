import TickCircuit.Proofs.Engine.Deeds
import TickCircuit.Session.Basic

/-!
# Calls on a Session

A session is used by calls, one after the other, and a call that ends in a fault is followed by the
next one all the same. Whatever observers do, an edit changes the circuit as the edit itself says
(`edit_circuit`), and every other call comes down to ticks and other deeds that leave the plan of the
circuit as it is (`Working`). So one call does one of the things that can happen to a circuit
(`perform_change`), integrity holds along every sequence of calls (`performAll_integral`), and what
holds after every list of deeds holds of every session (`performAll_deeds`).
-/

namespace TickCircuit.Session

variable {α β : Type}

/-! ## §1 What an Action Leaves Behind -/

/-- The session after an action, whether the action succeeds or not. -/
def after (a : Action α) (s : Session) : Session := (a.run.run s).2

theorem run_bind (a : Action α) (f : α → Action β) (s : Session) :
    (a >>= f).run.run s = match a.run.run s with
      | (.ok x, t) => (f x).run.run t
      | (.error e, t) => (.error e, t) := by
  change (ExceptT.bindCont f (a.run.run s).1).run (a.run.run s).2 = _
  rcases a.run.run s with ⟨result | result, t⟩ <;> rfl

/-- After two actions the session is as the second has left it, or as the first if that has failed. -/
theorem after_bind (a : Action α) (f : α → Action β) (s : Session) :
    (∃ x, after (a >>= f) s = after (f x) (after a s)) ∨ after (a >>= f) s = after a s := by
  unfold after
  rw [run_bind]
  rcases a.run.run s with ⟨result | result, t⟩
  · exact .inr rfl
  · exact .inl ⟨result, rfl⟩

/-- A relation between the session before and after an action. -/
def Moves (R : Session → Session → Prop) (a : Action α) : Prop := ∀ s, R s (after a s)

section Moves

variable {R : Session → Session → Prop}

/-- The relation holds from a session on over two actions if it holds from there on over the first. -/
theorem Moves.bind_from (trans : ∀ ⦃r s t⦄, R r s → R s t → R r t) {s : Session} {a : Action α}
    {f : α → Action β} (first : R s (after a s)) (second : ∀ x, Moves R (f x)) :
    R s (after (a >>= f) s) := by
  -- when the first action fails, nothing is done after it
  rcases after_bind a f s with ⟨x, h⟩ | h
  · rw [h]
    exact trans first (second x _)
  · rw [h]
    exact first

theorem Moves.bind (trans : ∀ ⦃r s t⦄, R r s → R s t → R r t) {a : Action α} {f : α → Action β}
    (first : Moves R a) (second : ∀ x, Moves R (f x)) : Moves R (a >>= f) :=
  fun s => Moves.bind_from trans (first s) second

theorem Moves.forM (refl : ∀ s, R s s) (trans : ∀ ⦃r s t⦄, R r s → R s t → R r t)
    {f : α → Action Unit} (h : ∀ x, Moves R (f x)) (xs : List α) : Moves R (xs.forM f) := by
  induction xs with
  | nil => exact refl
  | cons x rest ih => exact Moves.bind trans (h x) fun _ => ih

/-- Telling an observer notes that it was told and, if it fails, that it has failed. -/
theorem Moves.tell (refl : ∀ s, R s s) (trans : ∀ ⦃r s t⦄, R r s → R s t → R r t) {event : Event} (o : Observer)
    (told : ∀ s : Session, R s
      { s with trace := { s.trace with notices := s.trace.notices ++ [⟨o.name, event⟩] } })
    (noted : ∀ entries, Moves R (note entries)) : Moves R (Session.tell event o) := by
  refine Moves.bind trans told fun _ => ?_
  cases o.failure with
  | none => exact refl
  | some kind =>
    dsimp only
    split
    · exact noted _
    · exact refl

theorem Moves.announce (refl : ∀ s, R s s) (trans : ∀ ⦃r s t⦄, R r s → R s t → R r t) {event : Event}
    (told : ∀ o, Moves R (Session.tell event o)) : Moves R (Session.announce event) :=
  Moves.bind trans refl fun s => Moves.forM refl trans told s.observers

theorem Moves.runTicks (refl : ∀ s, R s s) (trans : ∀ ⦃r s t⦄, R r s → R s t → R r t)
    (stepped : Moves R step) (count : Nat) : Moves R (Session.runTicks count) := by
  induction count with
  | zero => exact refl
  | succ count ih => exact Moves.bind trans stepped fun _ => ih

/-- Each time the timer runs out, there is a step or nothing. -/
theorem Moves.timeOut (refl : ∀ s, R s s) (trans : ∀ ⦃r s t⦄, R r s → R s t → R r t)
    (stepped : Moves R step) (times : Nat) : Moves R (Session.timeOut times) := by
  induction times with
  | zero => exact refl
  | succ times ih =>
    refine Moves.bind trans refl fun s => ?_
    dsimp only
    split
    · exact Moves.bind trans stepped fun _ => ih
    · exact ih

end Moves

/-! ## §2 Observers -/

/-- Neither the circuit nor the engine is changed. -/
def Untouched (s t : Session) : Prop := t.circuit = s.circuit ∧ t.engine = s.engine

theorem Untouched.refl (s : Session) : Untouched s s := ⟨rfl, rfl⟩

theorem Untouched.trans ⦃r s t : Session⦄ (h : Untouched r s) (h' : Untouched s t) :
    Untouched r t :=
  ⟨h'.1.trans h.1, h'.2.trans h.2⟩

theorem note_untouched (entries : List Log.Entry) : Moves Untouched (note entries) :=
  fun _ => ⟨rfl, rfl⟩

theorem tell_untouched (event : Event) (o : Observer) : Moves Untouched (tell event o) :=
  Moves.tell Untouched.refl Untouched.trans o (fun _ => ⟨rfl, rfl⟩) note_untouched

/-- Whatever observers do when they are told, they change neither the circuit nor the engine. -/
theorem announce_untouched (event : Event) : Moves Untouched (announce event) :=
  Moves.announce Untouched.refl Untouched.trans (tell_untouched event)

/-! ## §3 Edits -/

/-- An edit in a session changes the circuit as the edit does, whatever the observers do. -/
theorem edit_circuit (change : Circuit → Edited α) (s : Session) :
    (after (edit change) s).circuit = (change s.circuit).circuit ∧
      (after (edit change) s).engine = s.engine := by
  let changed := { s with circuit := (change s.circuit).circuit }
  -- the circuit is set before anyone is told; what follows leaves it alone
  have told : Moves Untouched
      (do (change s.circuit).events.forM announce; (change s.circuit).result : Action α) :=
    Moves.bind Untouched.trans
      (Moves.forM Untouched.refl Untouched.trans announce_untouched _) fun _ => by
        cases (change s.circuit).result <;> exact Untouched.refl
  exact told changed

/-! ## §4 Everything Else -/

/-- The engine of a session and its circuit. -/
def bench (s : Session) : Bench := ⟨s.engine, s.circuit⟩

/-- Nothing is done to engine and circuit but deeds that are no edits. -/
def Working (s t : Session) : Prop :=
  ∃ deeds : List Deed, (∀ d ∈ deeds, d.isEdit = false) ∧ t.bench = s.bench.after deeds

theorem Working.refl (s : Session) : Working s s := ⟨[], by simp, rfl⟩

theorem Working.trans ⦃r s t : Session⦄ (h : Working r s) (h' : Working s t) : Working r t := by
  obtain ⟨deeds, plain, did⟩ := h
  obtain ⟨more, plain', did'⟩ := h'
  refine ⟨deeds ++ more, List.forall_mem_append.2 ⟨plain, plain'⟩, ?_⟩
  rw [did', did, Bench.after_append]

theorem Untouched.working {s t : Session} (h : Untouched s t) : Working s t :=
  ⟨[], by simp, by rw [bench, h.1, h.2]; rfl⟩

theorem announce_working (event : Event) : Moves Working (announce event) :=
  fun s => (announce_untouched event s).working

theorem adopt_bench (t : Ticked) (s : Session) : (after (adopt t) s).bench = t.bench := by
  let adopted := { s with circuit := t.circuit, engine := t.engine }
  have noted (next : Action Unit) (quiet : Moves Untouched next) :
      Moves Untouched (note t.log >>= fun _ => next) :=
    Moves.bind Untouched.trans (note_untouched _) fun _ => quiet
  have same : Untouched adopted (after (adopt t) s) := by
    unfold adopt
    cases t.fault with
    | none => exact noted (pure ()) Untouched.refl adopted
    | some fault => exact noted (throw fault) Untouched.refl adopted
  rw [bench, same.1, same.2]
  rfl

theorem adopt_then_working {s : Session} {t : Ticked} (deeds : List Deed)
    (plain : ∀ d ∈ deeds, d.isEdit = false) (did : t.bench = s.bench.after deeds)
    {next : Unit → Action Unit} (h : ∀ x, Moves Working (next x)) :
    Working s (after (adopt t >>= next) s) :=
  Moves.bind_from Working.trans ⟨deeds, plain, (adopt_bench t s).trans did⟩ h

theorem step_working : Moves Working step := fun _ =>
  adopt_then_working [.tick] (List.forall_mem_singleton.2 rfl) rfl fun _ =>
    Moves.bind Working.trans Working.refl fun _ => announce_working _

theorem runTicks_working (count : Nat) : Moves Working (runTicks count) :=
  Moves.runTicks Working.refl Working.trans step_working count

theorem runSilently_working (count : Nat) : Moves Working (runSilently count) := by
  intro s
  change Working s (after (adopt (s.engine.run s.circuit count)) s)
  obtain ⟨k, ticked⟩ := Bench.exists_deeds_of_run s.engine s.circuit count
  refine ⟨List.replicate k .tick, ?_, (adopt_bench _ s).trans ticked⟩
  intro d hd
  rw [List.eq_of_mem_replicate hd]
  rfl

theorem reset_working : Moves Working reset := fun _ =>
  adopt_then_working [.reset] (List.forall_mem_singleton.2 rfl) rfl fun _ =>
    announce_working _

theorem lift_working (r : Except Fault α) : Moves Working (r : Action α) := by
  cases r <;> exact Working.refl

theorem modify_working {f : Session → Session} (h : ∀ s, (f s).bench = s.bench) :
    Moves Working (modify f : Action Unit) :=
  fun s => ⟨[], by simp, h s⟩

theorem startTimer_working (interval : Value) : Moves Working (startTimer interval) := by
  have asked (call : TimerCall) : Moves Working (askTimer call) := modify_working fun _ => rfl
  have noted (entries : List Log.Entry) : Moves Working (note entries) := modify_working fun _ => rfl
  have paced (milliseconds : Float) : Moves Working (modify fun s =>
      { s with engine := { s.engine with interval := milliseconds } } : Action Unit) :=
    fun s => ⟨[.pace milliseconds], List.forall_mem_singleton.2 rfl, rfl⟩
  -- both branches on whether there is a timer go on with the same actions
  have started (n : Number) (entries : List Log.Entry) : Moves Working (do
      askTimer (.start (← timerPeriod n))
      let wasRunning := (← get).running
      modify fun s => { s with timer := some true, running := true }
      if !wasRunning then
        note entries
        announce .runStarted) := by
    refine Moves.bind Working.trans (lift_working _) fun period => ?_
    refine Moves.bind Working.trans (asked _) fun _ => ?_
    refine Moves.bind Working.trans Working.refl fun s => ?_
    refine Moves.bind Working.trans (modify_working fun _ => rfl) fun _ => ?_
    split
    · exact Moves.bind Working.trans (noted _) fun _ => announce_working _
    · exact Working.refl
  refine Moves.bind Working.trans Working.refl fun s => ?_
  refine Moves.bind Working.trans (lift_working _) fun n => ?_
  refine Moves.bind Working.trans (lift_working _) fun milliseconds => ?_
  refine Moves.bind Working.trans (paced milliseconds) fun _ => ?_
  refine Moves.bind Working.trans Working.refl fun s' => ?_
  dsimp only
  split
  · refine Moves.bind Working.trans (asked _) fun _ => ?_
    refine Moves.bind Working.trans (asked _) fun _ => ?_
    exact Moves.bind Working.trans (modify_working fun _ => rfl) fun _ => started n _
  · exact started n _

theorem stopTimer_working : Moves Working stopTimer := by
  refine Moves.bind Working.trans Working.refl fun s => ?_
  split
  · refine Moves.bind Working.trans (modify_working fun _ => rfl) fun _ => ?_
    refine Moves.bind Working.trans (modify_working fun _ => rfl) fun _ => ?_
    refine Moves.bind Working.trans Working.refl fun s' => ?_
    exact Moves.bind Working.trans (modify_working fun _ => rfl) fun _ => announce_working _
  · exact Working.refl

theorem timeOut_working (times : Nat) : Moves Working (timeOut times) :=
  Moves.timeOut Working.refl Working.trans step_working times

/-! ## §5 Calls -/

/-- A call on a session. -/
inductive Call where
  | edit (edit : Edit)
  | step
  | runTicks (count : Nat)
  | runSilently (count : Nat)
  | reset
  | startTimer (interval : Value)
  | stopTimer
  | timeOut (times : Nat)
  | observe (observer : Observer)
  | unobserve (observer : Observer)

def Call.action : Call → Action Unit
  | edit e => do let _ ← Session.edit e.apply
  | step => Session.step
  | runTicks count => Session.runTicks count
  | runSilently count => Session.runSilently count
  | reset => Session.reset
  | startTimer interval => Session.startTimer interval
  | stopTimer => Session.stopTimer
  | timeOut times => Session.timeOut times
  | observe observer => Session.observe observer
  | unobserve observer => Session.unobserve observer

/-- The session after a call; the fault in which the call may have ended is passed over. -/
def perform (s : Session) (call : Call) : Session := after call.action s

/-- The session after a sequence of calls. -/
def performAll (s : Session) (calls : List Call) : Session := calls.foldl perform s

@[simp] theorem performAll_append_one (s : Session) (calls : List Call) (call : Call) :
    s.performAll (calls ++ [call]) = (s.performAll calls).perform call :=
  List.foldl_append

theorem perform_edit (s : Session) (edit : Edit) :
    (s.perform (.edit edit)).circuit = (edit.apply s.circuit).circuit ∧
      (s.perform (.edit edit)).engine = s.engine := by
  have done := edit_circuit edit.apply s
  rcases after_bind (Session.edit edit.apply) (fun _ => pure ()) s with ⟨x, h⟩ | h
  · rw [perform, Call.action, h]
    exact done
  · rw [perform, Call.action, h]
    exact done

/-- A tick in a session is a tick of its engine, whatever the observers do. -/
theorem perform_step_bench (s : Session) : (s.perform .step).bench = s.bench.undergo .tick := by
  let t := s.engine.tick s.circuit
  have announced : Moves Untouched (do announce (.tickCompleted (← get).engine.ticks) : Action Unit) :=
    Moves.bind Untouched.trans Untouched.refl fun _ => announce_untouched _
  have adopted : (after (adopt t) s).bench = t.bench := adopt_bench t s
  rcases after_bind (adopt t) (fun _ => do announce (.tickCompleted (← get).engine.ticks)) s with
    ⟨_, both⟩ | failed
  · obtain ⟨circuit, engine⟩ := announced (after (adopt t) s)
    refine (congrArg bench both).trans (Eq.trans ?_ adopted)
    rw [bench, circuit, engine]
    rfl
  · exact (congrArg bench failed).trans adopted

theorem perform_step (s : Session) :
    (s.perform .step).circuit = (s.engine.tick s.circuit).circuit :=
  congrArg Bench.circuit (perform_step_bench s)

/-- Calls other than edits come down to deeds other than edits. -/
theorem perform_working (s : Session) {call : Call} (h : ∀ edit, call ≠ .edit edit) :
    Working s (s.perform call) := by
  cases call with
  | edit edit => exact absurd rfl (h edit)
  | step => exact step_working s
  | runTicks count => exact runTicks_working count s
  | runSilently count => exact runSilently_working count s
  | reset => exact reset_working s
  | startTimer interval => exact startTimer_working interval s
  | stopTimer => exact stopTimer_working s
  | timeOut times => exact timeOut_working times s
  | observe observer => exact modify_working (fun s => by split <;> rfl) s
  | unobserve observer => exact modify_working (fun _ => rfl) s

theorem perform_samePlan (s : Session) {call : Call} (h : ∀ edit, call ≠ .edit edit) :
    s.circuit.SamePlan (s.perform call).circuit := by
  obtain ⟨deeds, plain, did⟩ := perform_working s h
  have plan := Bench.after_samePlan (b := s.bench) plain
  rwa [← did] at plan

/-- **Step**: a call on a session with an integral circuit does one of the things that can happen to
the circuit. -/
theorem perform_change {s : Session} (h : s.circuit.Integral) (call : Call) :
    ∃ made, s.circuit.Change made (s.perform call).circuit := by
  by_cases isEdit : ∃ edit, call = .edit edit
  · obtain ⟨edit, rfl⟩ := isEdit
    rw [(perform_edit s edit).1]
    exact edit.change h
  · exact ⟨none, (perform_samePlan s (not_exists.1 isEdit)).change⟩

theorem perform_deeds (s : Session) (call : Call) :
    ∃ deeds, (s.perform call).bench = s.bench.after deeds := by
  by_cases isEdit : ∃ edit, call = .edit edit
  · obtain ⟨edit, rfl⟩ := isEdit
    obtain ⟨circuit, engine⟩ := perform_edit s edit
    refine ⟨[.edit edit], ?_⟩
    rw [bench, circuit, engine]
    rfl
  · obtain ⟨deeds, -, did⟩ := perform_working s (not_exists.1 isEdit)
    exact ⟨deeds, did⟩

/-- Whatever is called on a session, its engine and its circuit are as after a list of deeds. -/
theorem performAll_deeds (s : Session) (calls : List Call) :
    ∃ deeds, (s.performAll calls).bench = s.bench.after deeds := by
  induction calls generalizing s with
  | nil => exact ⟨[], rfl⟩
  | cons call rest ih =>
    obtain ⟨deeds, did⟩ := perform_deeds s call
    obtain ⟨more, did'⟩ := ih (s.perform call)
    refine ⟨deeds ++ more, ?_⟩
    rw [Bench.after_append, ← did]
    exact did'

/-- What all that is done with engine and circuit keeps is kept along every sequence of calls. -/
theorem performAll_keeps {p : Bench → Prop}
    (run : ∀ {b : Bench}, p b → ∀ deeds : List Deed, p (b.after deeds)) {s : Session} (h : p s.bench)
    (calls : List Call) : p (s.performAll calls).bench := by
  obtain ⟨deeds, did⟩ := performAll_deeds s calls
  rw [did]
  exact run h deeds

/-- **Run**: along every sequence of calls the circuit stays integral. -/
theorem performAll_integral {s : Session} (h : s.circuit.Integral) (calls : List Call) :
    (s.performAll calls).circuit.Integral :=
  performAll_keeps (p := fun b => b.circuit.Integral) Bench.after_integral h calls

end TickCircuit.Session

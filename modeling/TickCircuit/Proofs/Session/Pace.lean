import TickCircuit.Proofs.CommandLine.Tracing
import TickCircuit.Proofs.Engine.Settings
import TickCircuit.Proofs.Number.Rounding
import TickCircuit.Proofs.Session.Starting

/-!
# The Pace of a Run

The length of a tick comes from settings, from the command line or from a start. Settings are always a
length of time, that is positive and finite. The command line and starts only refuse numbers that are at
most zero, which an infinity or a NaN is not, so they have to be asked for finite numbers. Then all ticks
take time (`ticks_take_time`), and a start that fails, fails before it has changed anything
(`startTimer_error`).
-/

namespace TickCircuit

/-! ## §1 Lengths of Time -/

namespace Number

/-- A number that is not at most zero is a length of time, unless it is an infinity or a NaN. -/
theorem isSpan_of_not_le {n : Number} (positive : n.le (.int 0) = false)
    (finite : ∀ x, n = .real x → x.isFinite = true) : n.IsSpan := by
  rw [le, Bool.or_eq_false_iff] at positive
  obtain ⟨notBelow, notEqual⟩ := positive
  cases n with
  | int k =>
    rw [compare?] at notBelow notEqual
    cases order : compare k 0 with
    | lt => simp [order] at notBelow
    | eq => simp [order] at notEqual
    | gt => exact Int.compare_eq_gt.1 order
  | real x =>
    have isFinite : x.toModel.unpack.isFinite = true := finite x rfl
    refine ⟨Binary.zero_lt_iff.2 ?_, finite x rfl⟩
    rw [compare?, Binary.compareInt?_eq_exact, Exact.ofInt_zero] at notBelow notEqual
    cases value : Binary.exactValue? x with
    | none =>
      -- only a NaN has no exact value
      unfold Binary.exactValue? at value
      cases form : x.toModel.unpack with
      | notANumber =>
        rw [form] at isFinite
        cases isFinite
      | infinity s => cases s <;> simp [form, Binary.exactOf] at value
      | zero s => simp [form, Binary.exactOf] at value
      | finite s m e pos => simp [form, Binary.exactOf] at value
    | some u =>
      rw [value] at notBelow notEqual
      refine ⟨u, rfl, ?_⟩
      rcases lt_trichotomy u (.units 0) with below | equal | above
      · simp [compare_lt_iff_lt.2 below] at notBelow
      · simp [compare_eq_iff_eq.2 equal] at notEqual
      · exact above

end Number

namespace Session

/-- A length of time is one as a `Float`, too. -/
theorem floatOf_isSpan {n : Number} {x : Float} (span : n.IsSpan) (fits : floatOf n = .ok x) :
    (Number.real x).IsSpan := by
  cases n with
  | int k =>
    rw [floatOf] at fits
    split at fits
    · next holds =>
      cases fits
      exact ⟨Binary.ofInt_pos span, holds⟩
    · cases fits
  | real y =>
    cases fits
    exact span

/-- There is a period for every length of time. -/
theorem exists_timerPeriod {n : Number} (span : n.IsSpan) : ∃ period, timerPeriod n = .ok period := by
  cases n with
  | int k => exact ⟨_, rfl⟩
  | real x =>
    have finite : x.toModel.unpack.isFinite = true := span.2
    unfold timerPeriod Binary.roundHalfEven?
    dsimp only
    cases form : x.toModel.unpack with
    | notANumber | infinity =>
      rw [form] at finite
      cases finite
    | zero s => exact ⟨_, rfl⟩
    | finite s m e pos =>
      dsimp only
      by_cases whole : 0 ≤ e
      · rw [if_pos whole]
        exact ⟨_, rfl⟩
      · rw [if_neg whole]
        exact ⟨_, rfl⟩

end Session

/-! ## §2 Engines -/

/-- A tick of an engine takes time, and it comes to an end. -/
def Engine.TakesTime (e : Engine) : Prop := (Number.real e.interval).IsSpan

theorem Engine.start_floatOf {s : EngineSettings} {e : Engine} (started : start s = .ok e) :
    Session.floatOf s.tickInterval = .ok e.interval := by
  unfold start at started
  cases interval : s.tickInterval with
  | int n =>
    rw [interval] at started
    dsimp only at started
    rw [Session.floatOf]
    split at started
    · next holds =>
      cases started
      exact if_pos holds
    · cases started
  | real x =>
    rw [interval] at started
    cases started
    rfl

/-- What starts from a length of time takes time. -/
theorem Engine.start_takesTime {s : EngineSettings} {e : Engine} (span : s.tickInterval.IsSpan)
    (started : start s = .ok e) : e.TakesTime := Session.floatOf_isSpan span (start_floatOf started)

theorem EngineSettings.valid_of_load {path : String} {content : Option String} {s : EngineSettings}
    {log : List Log.Entry} (loaded : SettingsFile.load path content = .ok (s, log)) : s.Valid := by
  unfold SettingsFile.load at loaded
  cases content with
  | none =>
    cases loaded
    exact standard_valid
  | some bytes =>
    dsimp only at loaded
    split at loaded
    · split at loaded
      · cases loaded
      · cases loaded
        exact standard_valid
    · next es _ =>
      have same : (ofRecord es).1 = s := congrArg Prod.fst (Except.ok.inj loaded)
      rw [← same]
      exact valid_ofRecord es
    · cases loaded
      exact standard_valid

namespace CommandLine

theorem applyTo_tickInterval (o : RunOptions) (s : EngineSettings) :
    (o.applyTo s).tickInterval = (o.interval.map Number.real).getD s.tickInterval := by
  unfold RunOptions.applyTo
  cases o.interval <;> cases o.seed <;> rfl

/-- The command line starts engines only whose ticks take time, as long as it names no infinity and no
NaN. -/
theorem startEngine_takesTime {s : EngineSettings} {o : RunOptions} {e : Engine}
    (span : s.tickInterval.IsSpan) (finite : ∀ x, o.interval = some x → x.isFinite = true)
    (started : startEngine (o.applyTo s) = .ok e) : e.TakesTime := by
  obtain ⟨n, positive, begun⟩ := Outcome.bind_eq_ok.1 started
  refine Engine.start_takesTime ?_ begun
  rw [applyTo_tickInterval] at positive ⊢
  cases named : o.interval with
  | none => exact span
  | some x =>
    rw [named] at positive
    refine Number.isSpan_of_not_le ?_ fun y same => ?_
    · have checked : Session.positiveInterval (.real x) = .ok n := positive
      unfold Session.positiveInterval at checked
      dsimp only [Value.number?] at checked
      split at checked
      · cases checked
      · next above => exact Bool.eq_false_iff.2 above
    · cases same
      exact finite x named

theorem follow_interval (e : Engine) (c : Circuit) (count : Nat) :
    (follow e c count).1.engine.interval = e.interval := by
  rw [follow_run, e.run_interval]

end CommandLine

/-! ## §3 Calls -/

/-- The call is no start at an infinity or a NaN. -/
def Session.Call.AsksFinite : Call → Prop
  | startTimer asked => ∀ x, asked = .real x → x.isFinite = true
  | _ => True

namespace Session

variable {s t : Session}

/-- What is taken over as the length of a tick is a length of time. -/
theorem accepted_isSpan {present : Float} {asked : Value} {n : Number} {x : Float}
    (span : (Number.real present).IsSpan) (finite : ∀ y, asked = .real y → y.isFinite = true)
    (taken : accepted present asked = .ok (n, x)) : n.IsSpan ∧ (Number.real x).IsSpan := by
  obtain ⟨number, positive, fits⟩ := accepted_eq_ok.1 taken
  have isSpan : n.IsSpan := by
    refine Number.isSpan_of_not_le positive fun y real => ?_
    subst real
    cases asked with
    | null =>
      cases number
      exact span.2
    | real z =>
      cases number
      exact finite _ rfl
    | _ => cases number
  exact ⟨isSpan, floatOf_isSpan isSpan fits⟩

theorem tell_error {event : Event} {o : Observer} {e : Fault}
    (failed : (tell event o).run.run s = (.error e, t)) : ∃ kind name, e = .observer kind name := by
  unfold tell at failed
  cases failure : o.failure with
  | none =>
    rw [failure] at failed
    cases failed
  | some kind =>
    rw [failure] at failed
    dsimp only at failed
    split at failed
    · cases failed
    · cases failed
      exact ⟨_, _, rfl⟩

/-- Telling observers fails only with the failure of one of them. -/
theorem announce_error {event : Event} {e : Fault} (failed : (announce event).run.run s = (.error e, t)) :
    ∃ kind name, e = .observer kind name := by
  change (s.observers.forM (tell event)).run.run s = _ at failed
  generalize s.observers = observers at failed
  induction observers generalizing s with
  | nil => cases failed
  | cons o rest ih =>
    change (tell event o >>= fun _ => rest.forM (tell event)).run.run s = _ at failed
    rw [run_bind] at failed
    cases first : (tell event o).run.run s with
    | mk result left =>
      rw [first] at failed
      cases result with
      | ok _ => exact ih failed
      | error e' =>
        cases failed
        exact tell_error first

/-- A start that fails changes nothing, unless it is an observer who fails. -/
theorem startTimer_error {asked : Value} {e : Fault} (takesTime : s.engine.TakesTime)
    (finite : (Call.startTimer asked).AsksFinite)
    (failed : (startTimer asked).run.run s = (.error e, t)) :
    t = s ∨ ∃ kind name, e = .observer kind name := by
  have ends := startTimer_starts s asked
  rw [failed] at ends
  generalize result : (Except.error e, t) = r at ends
  cases ends with
  | refused =>
    cases result
    exact .inl rfl
  | stalled taken endless =>
    obtain ⟨period, timed⟩ := exists_timerPeriod (accepted_isSpan takesTime finite taken).1
    cases timed.symm.trans endless
  | retimed => cases result
  | begun => exact .inr (announce_error result.symm)

/-- Only a start gives ticks another length. -/
theorem perform_interval {call : Call} (noStart : ∀ asked, call ≠ .startTimer asked) :
    (s.perform call).engine.interval = s.engine.interval := by
  cases call with
  | startTimer asked => exact absurd rfl (noStart asked)
  | stopTimer =>
    have ends := stopTimer_stops s
    change (Session.stopTimer.run.run s).2.engine.interval = _
    generalize Session.stopTimer.run.run s = result at ends
    cases ends with
    | ignored => rfl
    | ended =>
      obtain ⟨_, _, -, spoken⟩ := announce_spoken .runStopped (s.halted.logged [stopEntry s.engine.ticks])
      exact congrArg (·.engine.interval) spoken
  | observe o =>
    change (if s.observers.contains o then s else
      { s with observers := s.observers ++ [o] }).engine.interval = _
    split <;> rfl
  | unobserve o => rfl
  | _ => exact (perform_quiet s (by trivial) noStart (by simp)).interval

/-- What a start has taken over as the length of a tick stays so, even if it fails afterwards. -/
theorem perform_startTimer_interval (s : Session) (asked : Value) :
    (s.perform (.startTimer asked)).engine.interval =
      match accepted s.engine.interval asked with
      | .error _ => s.engine.interval
      | .ok (_, x) => x := by
  have ends := startTimer_starts s asked
  change ((startTimer asked).run.run s).2.engine.interval = _
  generalize (startTimer asked).run.run s = result at ends
  have equipped (x : Float) : (s.paced x).equipped.engine.interval = x := by
    obtain ⟨_, _, equipped⟩ := exists_equipped (s.paced x)
    rw [equipped]
    rfl
  cases ends with
  | refused refused => rw [refused]
  | @stalled n x e taken =>
    rw [taken]
    exact equipped x
  | @retimed n x period taken =>
    rw [taken]
    exact equipped x
  | @begun n x period taken =>
    rw [taken]
    obtain ⟨_, _, -, spoken⟩ := announce_spoken .runStarted
      (((s.paced x).equipped.driven period).logged [startEntry (askedInterval s.engine.interval asked)])
    exact (congrArg (·.engine.interval) spoken).trans (equipped x)

/-- **Step**: after a call that names no infinity and no NaN, ticks take time if they have taken time
before. -/
theorem perform_takesTime (takesTime : s.engine.TakesTime) {call : Call} (finite : call.AsksFinite) :
    (s.perform call).engine.TakesTime := by
  unfold Engine.TakesTime at takesTime ⊢
  by_cases starts : ∃ asked, call = .startTimer asked
  · obtain ⟨asked, rfl⟩ := starts
    rw [perform_startTimer_interval]
    cases taken : accepted s.engine.interval asked with
    | error e => exact takesTime
    | ok result => exact (accepted_isSpan takesTime finite taken).2
  · rw [perform_interval (not_exists.1 starts)]
    exact takesTime

/-- **Run**: so they do after any such calls. -/
theorem performAll_takesTime (takesTime : s.engine.TakesTime) {calls : List Call}
    (finite : ∀ call ∈ calls, call.AsksFinite) : (s.performAll calls).engine.TakesTime := by
  induction calls generalizing s with
  | nil => exact takesTime
  | cons call rest ih =>
    obtain ⟨first, others⟩ := List.forall_mem_cons.1 finite
    exact ih (perform_takesTime takesTime first) others

end Session

end TickCircuit

import Mathlib
import TickCircuit.Proofs.Circuit.Mirror
import TickCircuit.Proofs.Session.Calls

/-!
# Observers that Follow a Circuit

An observer who is there from the start and who stays can keep a mirror of the circuit by what they are
told (`mirror_kept`). Every change of the structure is told exactly once, and what is ignored or fails is
not told at all.

That other observers fail does not matter, as long as their failures are only logged. The observers of a
session fail always or never. Here they have a temper: whether an observer fails, and how, may depend on
the event and on all that has happened so far. A session as it is defined is one in which all of them
have their own temper (`performAllAs_own`).
-/

namespace TickCircuit

/-- How an observer fails when they are told about an event in a session, if they do. -/
abbrev Temper := Session → Event → Observer → Option FaultKind

namespace Temper

/-- Everyone fails always or never. -/
def own : Temper := fun _ _ o => o.failure

/-- All failures are only logged. -/
def Tolerated (temper : Temper) : Prop :=
  ∀ s event o kind, temper s event o = some kind → Session.isTolerated kind = true

end Temper

namespace Session

variable {α β : Type} {temper : Temper} {observers : List Observer} {o : Observer} {s : Session}

/-! ## §1 Observers with a Temper -/

/-- Tells one observer about an event, who fails as the temper says. -/
def tellAs (temper : Temper) (event : Event) (o : Observer) : Action Unit := do
  tell event { o with failure := temper (← get) event o }

/-- Tells all observers about an event. -/
def announceAs (temper : Temper) (event : Event) : Action Unit := do
  (← get).observers.forM (tellAs temper event)

/-- Carries out an edit and announces its events. -/
def editAs (temper : Temper) (change : Circuit → Edited α) : Action α := do
  let edited := change (← get).circuit
  modify fun s => { s with circuit := edited.circuit }
  edited.events.forM (announceAs temper)
  edited.result

/-- A call that edits the circuit, or by which an observer comes or goes. -/
inductive Control where
  | edit (edit : Edit)
  | observe (observer : Observer)
  | unobserve (observer : Observer)

namespace Control

def call : Control → Call
  | edit e => .edit e
  | observe observer => .observe observer
  | unobserve observer => .unobserve observer

def actionAs (temper : Temper) : Control → Action Unit
  | edit e => do let _ ← editAs temper e.apply
  | observe observer => Session.observe observer
  | unobserve observer => Session.unobserve observer

/-- An observer stays, and nobody else comes with the same name. -/
def Leaves (o : Observer) : Control → Prop
  | edit _ => True
  | observe other => other.name = o.name → other = o
  | unobserve other => other ≠ o

end Control

/-- The session after a call. -/
def performAs (temper : Temper) (s : Session) (control : Control) : Session :=
  after (control.actionAs temper) s

/-- The session after a sequence of calls. -/
def performAllAs (temper : Temper) (s : Session) (controls : List Control) : Session :=
  controls.foldl (performAs temper) s

/-- With their own temper observers are as they are. -/
theorem performAllAs_own (s : Session) (controls : List Control) :
    s.performAllAs .own controls = s.performAll (controls.map Control.call) := by
  have one (s : Session) (control : Control) : s.performAs .own control = s.perform control.call := by
    cases control <;> rfl
  rw [performAllAs, performAll, List.foldl_map]
  simp only [funext fun s => funext (one s)]

/-! ## §2 What Observers Are Told -/

/-- The notices of an event to all observers. -/
def noticesOf (observers : List Observer) (event : Event) : List Notice :=
  observers.map fun x => ⟨x.name, event⟩

/-- Notices have been given since, and neither the circuit nor the observers are changed. -/
structure Told (notices : List Notice) (s t : Session) : Prop where
  circuit : t.circuit = s.circuit
  observers : t.observers = s.observers
  notices : t.trace.notices = s.trace.notices ++ notices

theorem Told.refl (s : Session) : Told [] s s := ⟨rfl, rfl, (List.append_nil _).symm⟩

theorem Told.trans {r t : Session} {notices more : List Notice} (told : Told notices r s)
    (told' : Told more s t) : Told (notices ++ more) r t where
  circuit := told'.circuit.trans told.circuit
  observers := told'.observers.trans told.observers
  notices := by rw [told'.notices, told.notices, List.append_assoc]

/-- Among these observers the action goes through, and all that it does is to give the notices. -/
def Tells (observers : List Observer) (a : Action Unit) (notices : List Notice) : Prop :=
  ∀ s, s.observers = observers → ∃ t, a.run.run s = (.ok (), t) ∧ Told notices s t

theorem Tells.bind {a b : Action Unit} {notices more : List Notice} (first : Tells observers a notices)
    (second : Tells observers b more) : Tells observers (a >>= fun _ => b) (notices ++ more) := by
  intro s here
  obtain ⟨t, run, told⟩ := first s here
  obtain ⟨u, run', told'⟩ := second t (told.observers.trans here)
  refine ⟨u, ?_, told.trans told'⟩
  rw [run_bind, run]
  exact run'

theorem Tells.forM {f : β → Action Unit} {notices : β → List Notice}
    (each : ∀ x, Tells observers (f x) (notices x)) (xs : List β) :
    Tells observers (xs.forM f) (xs.flatMap notices) := by
  induction xs with
  | nil => exact fun s _ => ⟨s, rfl, .refl s⟩
  | cons x rest ih => exact (each x).bind ih

theorem tell_tells (event : Event)
    (tolerated : ∀ kind, o.failure = some kind → isTolerated kind = true) :
    Tells observers (tell event o) [⟨o.name, event⟩] := by
  -- the notice is given before the observer can fail
  have given : Tells observers (modify fun s : Session => { s with
      trace := { s.trace with notices := s.trace.notices ++ [⟨o.name, event⟩] } }) [⟨o.name, event⟩] :=
    fun s _ => ⟨_, rfl, rfl, rfl, rfl⟩
  refine given.bind (show Tells observers _ [] from ?_)
  cases failure : o.failure with
  | none => exact fun s _ => ⟨s, rfl, .refl s⟩
  | some kind =>
    dsimp only
    rw [if_pos (tolerated kind failure)]
    exact fun s _ => ⟨_, rfl, rfl, rfl, (List.append_nil _).symm⟩

theorem announceAs_tells (tolerated : temper.Tolerated) (event : Event) :
    Tells observers (announceAs temper event) (noticesOf observers event) := by
  have each (x : Observer) : Tells observers (tellAs temper event x) [⟨x.name, event⟩] :=
    fun s here => tell_tells event (tolerated s event x) s here
  intro s here
  obtain ⟨t, run, told⟩ := Tells.forM each observers s here
  refine ⟨t, ?_, ?_⟩
  · show (s.observers.forM (tellAs temper event)).run.run s = _
    rw [here]
    exact run
  · rw [noticesOf, List.map_eq_flatMap]
    exact told

/-- An edit changes the circuit, and then all observers are told of all its events, whether or not some
of them fail. -/
theorem performAs_edit (tolerated : temper.Tolerated) (s : Session) (e : Edit) :
    Told ((e.apply s.circuit).events.flatMap (noticesOf s.observers))
      { s with circuit := (e.apply s.circuit).circuit } (s.performAs temper (.edit e)) := by
  obtain ⟨t, run, told⟩ := Tells.forM (announceAs_tells tolerated) (e.apply s.circuit).events
    { s with circuit := (e.apply s.circuit).circuit } rfl
  have edited : after (editAs temper e.apply) s = t := by
    show (((e.apply s.circuit).events.forM (announceAs temper) >>= fun _ =>
      ((e.apply s.circuit).result : Action Value)).run.run _).2 = t
    rw [run_bind, run]
    cases (e.apply s.circuit).result <;> rfl
  have left : s.performAs temper (.edit e) = t := by
    rcases after_bind (editAs temper e.apply) (fun _ => pure ()) s with ⟨_, h⟩ | h
    · exact h.trans edited
    · exact h.trans edited
  rw [left]
  exact told

/-! ## §3 Followers -/

/-- The events that an observer has been told. -/
def eventsOf (s : Session) (name : String) : List Event :=
  (s.trace.notices.filter (·.observer == name)).map (·.event)

/-- The observer is there once. Notices are kept by name, so nobody else has the same name. -/
def Registered (o : Observer) (observers : List Observer) : Prop :=
  observers.filter (·.name == o.name) = [o]

theorem Registered.mem (registered : Registered o observers) : o ∈ observers := by
  apply List.mem_of_mem_filter (p := (·.name == o.name))
  rw [show observers.filter (·.name == o.name) = [o] from registered]
  exact List.mem_singleton_self o

/-- Of each event there is one notice to a registered observer. -/
theorem Registered.notices (registered : Registered o observers) (events : List Event) :
    ((events.flatMap (noticesOf observers)).filter (·.observer == o.name)).map (·.event) = events := by
  have once (event : Event) :
      ((noticesOf observers event).filter (·.observer == o.name)).map (·.event) = [event] := by
    rw [noticesOf, List.filter_map, List.map_map]
    show (observers.filter (·.name == o.name)).map _ = [event]
    rw [registered]
    rfl
  rw [List.filter_flatMap, List.map_flatMap]
  simp only [once, List.flatMap_singleton']

/-- The observer is registered, and following what they have been told gives the mirror of the
circuit. -/
structure Follows (o : Observer) (s : Session) : Prop where
  integral : s.circuit.Integral
  registered : Registered o s.observers
  mirror : Mirror.followAll ⟨[], []⟩ (s.eventsOf o.name) = some (.of s.circuit)

/-- **Step**: a call that leaves an observer where they are lets them follow the circuit. -/
theorem Follows.performAs (h : Follows o s) (tolerated : temper.Tolerated) {control : Control}
    (leaves : control.Leaves o) : Follows o (s.performAs temper control) := by
  cases control with
  | edit e =>
    obtain ⟨circuit, same, notices⟩ := performAs_edit tolerated s e
    obtain ⟨made, change⟩ := e.change h.integral
    have told : (s.performAs temper (.edit e)).eventsOf o.name =
        s.eventsOf o.name ++ (e.apply s.circuit).events := by
      rw [eventsOf, notices, List.filter_append, List.map_append, h.registered.notices]
      rfl
    constructor
    · rw [circuit]
      exact h.integral.change change
    · rw [same]
      exact h.registered
    · rw [told, circuit, Mirror.followAll_append, h.mirror]
      exact e.mirrored h.integral
  | observe other =>
    show Follows o (if s.observers.contains other then s else
      { s with observers := s.observers ++ [other] })
    split
    · exact h
    · next new =>
      -- someone new is not the observer, so they have another name
      have differs : (other.name == o.name) = false := by
        refine Bool.eq_false_iff.2 fun same => new ?_
        rw [leaves (eq_of_beq same)]
        exact List.contains_iff_mem.2 h.registered.mem
      refine ⟨h.integral, ?_, h.mirror⟩
      show (s.observers ++ [other]).filter _ = [o]
      rw [List.filter_append, h.registered]
      simp [differs]
  | unobserve other =>
    refine ⟨h.integral, ?_, h.mirror⟩
    show (s.observers.erase other).filter _ = [o]
    rw [← List.erase_filter, h.registered]
    exact List.erase_of_not_mem fun member => leaves (List.mem_singleton.1 member)

/-- **Run**: what holds of a follower at the start of some calls holds after them. -/
theorem Follows.performAllAs (h : Follows o s) (tolerated : temper.Tolerated) {controls : List Control}
    (stays : ∀ control ∈ controls, control.Leaves o) : Follows o (s.performAllAs temper controls) := by
  induction controls generalizing s with
  | nil => exact h
  | cons control rest ih =>
    obtain ⟨here, later⟩ := List.forall_mem_cons.1 stays
    exact ih (h.performAs tolerated here) later

/-- **Followers**: in a session that starts with the empty circuit, whatever calls are made and however
other observers fail in tolerated ways, the events that an observer has been told who has been there from
the start and has stayed can be followed, and they lead to the ids of the components and of the wires
of the circuit. -/
theorem mirror_kept (tolerated : temper.Tolerated) (engine : Engine)
    (registered : Registered o observers) {controls : List Control}
    (stays : ∀ control ∈ controls, control.Leaves o) :
    let now := (start .empty engine observers).performAllAs temper controls
    Mirror.followAll ⟨[], []⟩ (now.eventsOf o.name) = some (.of now.circuit) := by
  have begins : Follows o (start .empty engine observers) :=
    ⟨Circuit.integral_empty, registered, rfl⟩
  exact (begins.performAllAs tolerated stays).mirror

/-- A view and a recorder, who fails whenever a wire is removed. -/
def viewAndRecorder : List Observer := [⟨"recorder", none⟩, ⟨"view", none⟩]

def failsOnRemovedWires : Temper := fun _ event o =>
  match event with
  | .wireRemoved _ => if o.name == "recorder" then some (.other "RuntimeError") else none
  | _ => none

/-- A component is removed together with its wire. -/
def connectAndRemove : List Control := [
  .edit (.addComponent (.text "Constant") .null .null),
  .edit (.addComponent (.text "Abs") .null .null),
  .edit (.connect (.text "Constant1") (.text "VALUE_OUT") (.text "Abs1") (.text "SIGNAL_IN")),
  .edit (.removeComponent (.text "Constant1")),
  .edit (.removeComponent (.text "Constant1"))]

/-- The view is told of both removals, and what is not there any more is not removed again. -/
theorem eventsOf_connectAndRemove (engine : Engine) :
    ((start .empty engine viewAndRecorder).performAllAs failsOnRemovedWires
      connectAndRemove).eventsOf "view" = [.componentAdded (.text "Constant1"),
        .componentAdded (.text "Abs1"), .wireAdded (.text "W1"), .wireRemoved (.text "W1"),
        .componentRemoved (.text "Constant1")] := by
  cbv

theorem mirror_kept_beside_failing_recorder :
    let now := (start .empty Engine.standardStart viewAndRecorder).performAllAs failsOnRemovedWires
      connectAndRemove
    failsOnRemovedWires.Tolerated ∧ Registered ⟨"view", none⟩ viewAndRecorder ∧
      (∀ control ∈ connectAndRemove, control.Leaves ⟨"view", none⟩) ∧
        now.eventsOf "view" = [.componentAdded (.text "Constant1"), .componentAdded (.text "Abs1"),
          .wireAdded (.text "W1"), .wireRemoved (.text "W1"), .componentRemoved (.text "Constant1")] ∧
          Mirror.followAll ⟨[], []⟩ (now.eventsOf "view") = some (.of now.circuit) := by
  have tolerated : failsOnRemovedWires.Tolerated := by
    intro s event o kind fails
    unfold failsOnRemovedWires at fails
    split at fails
    · split at fails
      · cases fails
        rfl
      · cases fails
    · cases fails
  have registered : Registered ⟨"view", none⟩ viewAndRecorder := rfl
  have stays : ∀ control ∈ connectAndRemove, control.Leaves ⟨"view", none⟩ := by
    simp [connectAndRemove, Control.Leaves]
  exact ⟨tolerated, registered, stays, eventsOf_connectAndRemove Engine.standardStart,
    mirror_kept tolerated Engine.standardStart registered stays⟩

end Session

end TickCircuit

import TickCircuit.Proofs.Engine.Broadcast
import TickCircuit.Proofs.Engine.Deeds

/-!
# Where Signals Come From

What an engine has published, and what it lets be heard, is replaced by a tick that goes through and by
a reset, and by nothing else (`Quiet`). So between two ticks the signals of the first one stay as they
are while the circuit is edited, and they are kept by id and by channel. A signal is delivered for the
component that has sent it as long as its id is not given to another component in the meantime
(`NoTakeover`); if it is, the newcomer passes on a signal that it never had (`stale_after_clear`).
-/

namespace TickCircuit

/-! ## §1 What Is Delivered -/

namespace Circuit

variable {c : Circuit} {published : Published} {id : Value} {pin : String}

/-- A signal that is delivered is published under the id at the start of the first wire. -/
theorem exists_source_of_delivered (present : (c.delivered published id pin).isPresent = true) :
    ∃ w name pins, c.wires.find? (·.feeds id (.text pin)) = some w ∧
      c.components.contains w.source = true ∧ w.sourcePin = .text name ∧
      published.find? w.source = some pins ∧ pins.lookup name = some (c.delivered published id pin) := by
  unfold delivered at present ⊢
  cases first : c.wires.find? (·.feeds id (.text pin)) with
  | none =>
    rw [first] at present
    cases present
  | some w =>
    rw [first] at present
    dsimp only at present ⊢
    by_cases inUse : c.components.contains w.source = true
    · rw [if_pos inUse] at present ⊢
      have same := Value.asSignal_of_isPresent present
      rw [same] at present ⊢
      obtain ⟨name, pins, sourcePin, there, shown⟩ := Published.value_of_isPresent present
      exact ⟨w, name, pins, rfl, inUse, sourcePin, there, shown⟩
    · rw [if_neg inUse] at present
      cases present

theorem delivered_of_not_isPresent (h : ¬ (c.delivered published id pin).isPresent = true) :
    c.delivered published id pin = .absent := by
  unfold delivered at h ⊢
  split at h
  · rfl
  · next w _ =>
    split
    · next inUse =>
      rw [if_pos inUse] at h
      exact Value.asSignal_of_not_isPresent h
    · rfl

/-- Where nothing has been published, nothing is delivered. -/
theorem delivered_of_nothing (nothing : published = []) (id : Value) (pin : String) :
    c.delivered published id pin = .absent := by
  refine Circuit.delivered_of_not_isPresent fun present => ?_
  obtain ⟨w, name, pins, -, -, -, there, -⟩ := exists_source_of_delivered present
  rw [nothing] at there
  cases there

end Circuit

namespace Bench

variable {b : Bench} {d : Deed} {deeds before later : List Deed} {id : Value}

/-! ## §2 What Renews the Signals -/

/-- The deed replaces all signals under way: it is a tick that goes through, or a reset. -/
def Renews (b : Bench) : Deed → Prop
  | .tick => (b.engine.tick b.circuit).fault = none
  | .reset => True
  | _ => False

/-- None of the deeds replaces them. -/
def Quiet : Bench → List Deed → Prop
  | _, [] => True
  | b, d :: rest => ¬ b.Renews d ∧ (b.undergo d).Quiet rest

theorem quiet_append : b.Quiet (deeds ++ later) ↔ b.Quiet deeds ∧ (b.after deeds).Quiet later := by
  induction deeds generalizing b with
  | nil => exact ⟨fun h => ⟨trivial, h⟩, fun h => h.2⟩
  | cons d rest ih =>
    rw [List.cons_append, Quiet, Quiet, ih, after_cons, and_assoc]

theorem signals_of_not_renews (h : ¬ b.Renews d) :
    (b.undergo d).engine.published = b.engine.published ∧
      (b.undergo d).engine.broadcast.previous = b.engine.broadcast.previous := by
  cases d with
  | edit e => exact ⟨rfl, rfl⟩
  | pace interval => exact ⟨rfl, rfl⟩
  | reset => exact absurd trivial h
  | tick =>
    rw [undergo_tick_engine]
    -- the tick ends in a fault, before anything is published
    cases hw : Delivery.winners b.circuit.wires with
    | error fault =>
      rw [(Engine.tick_engine_of_error hw).1]
      exact ⟨rfl, rfl⟩
    | ok winners =>
      obtain ⟨reported, engine⟩ := Engine.tick_engine_of_fault hw (Option.isSome_iff_ne_none.2 h)
      rw [engine]
      exact ⟨rfl, Sweep.broadcast_previous _ _⟩

theorem Quiet.signals (h : b.Quiet deeds) :
    (b.after deeds).engine.published = b.engine.published ∧
      (b.after deeds).engine.broadcast.previous = b.engine.broadcast.previous := by
  induction deeds generalizing b with
  | nil => exact ⟨rfl, rfl⟩
  | cons d rest ih =>
    obtain ⟨first, others⟩ := h
    obtain ⟨published, previous⟩ := signals_of_not_renews first
    obtain ⟨published', previous'⟩ := ih others
    exact ⟨published'.trans published, previous'.trans previous⟩

/-- Either nothing has renewed the signals, or there is a last deed that has. -/
theorem exists_last_renewal (b : Bench) (deeds : List Deed) :
    b.Quiet deeds ∨ ∃ before d later, deeds = before ++ d :: later ∧ (b.after before).Renews d ∧
      ((b.after before).undergo d).Quiet later := by
  induction deeds generalizing b with
  | nil => exact .inl trivial
  | cons d rest ih =>
    rcases ih (b.undergo d) with quiet | ⟨before, d', later, split, renews, quiet⟩
    · by_cases renews : b.Renews d
      · exact .inr ⟨[], d, rest, rfl, renews, quiet⟩
      · exact .inl ⟨renews, quiet⟩
    · exact .inr ⟨d :: before, d', later, by rw [split]; rfl, renews, quiet⟩

/-- After the deeds in `before` there has been a tick that went through, and it was the last one. -/
structure LastTick (b : Bench) (deeds before later : List Deed) : Prop where
  split : deeds = before ++ .tick :: later
  through : ((b.after before).engine.tick (b.after before).circuit).fault = none
  quiet : ((b.after before).undergo .tick).Quiet later

theorem LastTick.after_eq (h : b.LastTick deeds before later) :
    b.after deeds = ((b.after before).undergo .tick).after later := by
  rw [h.split, after_append, after_cons]

/-! ## §3 Ids in Use -/

def InUse (b : Bench) (id : Value) : Prop := b.circuit.components.contains id = true

/-- The id is in use before, between and after the deeds. -/
def Keeps : Bench → List Deed → Value → Prop
  | b, [], id => b.InUse id
  | b, d :: rest, id => b.InUse id ∧ (b.undergo d).Keeps rest id

theorem Keeps.inUse (h : b.Keeps deeds id) : b.InUse id := by
  cases deeds with
  | nil => exact h
  | cons d rest => exact h.1

theorem keeps_append : b.Keeps (deeds ++ later) id ↔
    b.Keeps deeds id ∧ (b.after deeds).Keeps later id := by
  induction deeds generalizing b with
  | nil => exact ⟨fun h => ⟨h.inUse, h⟩, fun h => h.2⟩
  | cons d rest ih =>
    rw [List.cons_append, Keeps, Keeps, ih, after_cons, and_assoc]

/-- An id that is kept in use is in use for the same component, with the same id and type. -/
theorem Keeps.find?_roster (integral : b.circuit.Integral) (h : b.Keeps deeds id) :
    (b.after deeds).circuit.roster.find? id = b.circuit.roster.find? id := by
  induction deeds generalizing b with
  | nil => rfl
  | cons d rest ih =>
    obtain ⟨first, others⟩ := h
    obtain ⟨made, change⟩ := undergo_change integral d
    rw [after_cons, ih (integral.change change) others]
    exact integral.find?_roster_of_stays change first others.inUse

/-- No id that was in use in the last tick has been freed and given away again since. -/
def NoTakeover (b : Bench) (deeds : List Deed) : Prop :=
  ∀ before later, b.LastTick deeds before later → ∀ id,
    ((b.after before).undergo .tick).InUse id → (b.after deeds).InUse id →
    ((b.after before).undergo .tick).Keeps later id

/-- Ids stay in use as long as no component is removed and the circuit is not cleared. -/
theorem keeps_of_frees (integral : b.circuit.Integral) (h : ∀ d ∈ deeds, d.frees = false)
    (inUse : b.InUse id) : b.Keeps deeds id := by
  induction deeds generalizing b with
  | nil => exact inUse
  | cons d rest ih =>
    obtain ⟨first, others⟩ := List.forall_mem_cons.1 h
    have still : (b.undergo d).InUse id := by
      cases isEdit : d.isEdit with
      | true =>
        cases d with
        | edit e => exact e.keepsIds first inUse
        | _ => cases isEdit
      | false =>
        rw [InUse, ← Circuit.contains_roster, (b.undergo_samePlan isEdit).roster,
          Circuit.contains_roster]
        exact inUse
    obtain ⟨made, change⟩ := undergo_change integral d
    exact ⟨inUse, ih (integral.change change) others still⟩

/-- Without removing and clearing no id is taken over. -/
theorem noTakeover_of_frees (integral : b.circuit.Integral) (h : ∀ d ∈ deeds, d.frees = false) :
    b.NoTakeover deeds := by
  intro before later last id inUse _
  obtain ⟨made, change⟩ := undergo_change (after_integral integral before) .tick
  refine keeps_of_frees ((after_integral integral before).change change) (fun d hd => h d ?_) inUse
  rw [last.split]
  exact List.mem_append_right before (List.mem_cons_of_mem _ hd)

/-! ## §4 Signals on Wires -/

/-- The signal on an input pin comes from the component that is now at the start of the first wire
into it: in the last tick that component has shown the signal, and it has been there ever since. -/
def Fresh (b : Bench) (deeds : List Deed) (id : Value) (pin : String) (v : Value) : Prop :=
  ∃ w before later name x y,
    (b.after deeds).circuit.wires.find? (·.feeds id (.text pin)) = some w ∧
      b.LastTick deeds before later ∧
      ((b.after before).undergo .tick).circuit.components.find? w.source = some x ∧
      w.sourcePin = .text name ∧ x.outputs.lookup name = some v ∧
      ((b.after before).undergo .tick).Keeps later w.source ∧
      (b.after deeds).circuit.components.find? w.source = some y ∧ y.id = x.id ∧ y.type = x.type

/-- What is published after the last tick is what the components have shown in it. -/
theorem LastTick.find?_published (integral : b.circuit.Integral) (h : b.LastTick deeds before later)
    (key : Value) :
    (b.after deeds).engine.published.find? key =
      (((b.after before).undergo .tick).circuit.components.find? key).map Component.outputs := by
  rw [h.after_eq, h.quiet.signals.1]
  exact Engine.tick_find?_published (after_integral integral before).indexed.ids h.through key

/-- Whatever is published has been shown in a last tick. -/
theorem exists_lastTick_of_published (nothing : b.engine.published = [])
    (something : (b.after deeds).engine.published ≠ []) : ∃ before later, b.LastTick deeds before later := by
  rcases exists_last_renewal b deeds with quiet | ⟨before, d, later, split, renews, quiet⟩
  · rw [quiet.signals.1] at something
    exact absurd nothing something
  · cases d with
    | tick => exact ⟨before, later, split, renews, quiet⟩
    | reset =>
      have published : (b.after deeds).engine.published = [] := by
        rw [split, after_append, after_cons, quiet.signals.1]
        rfl
      exact absurd published something
    | edit e => exact absurd renews id
    | pace interval => exact absurd renews id

/-- A signal that is delivered is fresh, unless an id has been taken over. -/
theorem fresh_of_delivered (integral : b.circuit.Integral) (nothing : b.engine.published = [])
    (ids : b.NoTakeover deeds) {id : Value} {pin : String} {v : Value}
    (delivered : (b.after deeds).circuit.delivered (b.after deeds).engine.published id pin = v)
    (present : v.isPresent = true) : b.Fresh deeds id pin v := by
  rw [← delivered] at present
  obtain ⟨w, name, pins, first, inUse, sourcePin, published, shown⟩ :=
    Circuit.exists_source_of_delivered present
  rw [delivered] at shown
  -- so there was a last tick, and the component under the id has shown the signal in it
  have something : (b.after deeds).engine.published ≠ [] := by
    intro empty
    rw [empty] at published
    cases published
  obtain ⟨before, later, last⟩ := exists_lastTick_of_published nothing something
  rw [last.find?_published integral] at published
  obtain ⟨x, found, rfl⟩ := Option.map_eq_some_iff.1 published
  have keeps : ((b.after before).undergo .tick).Keeps later w.source :=
    ids before later last w.source (by rw [InUse, Table.contains, found]; rfl) inUse
  -- and since the id was in use ever since, it is the component that is there now
  obtain ⟨made, change⟩ := undergo_change (after_integral integral before) .tick
  have roster := keeps.find?_roster ((after_integral integral before).change change)
  rw [← last.after_eq, Circuit.find?_roster, Circuit.find?_roster, found] at roster
  obtain ⟨y, now, alike⟩ := Option.map_eq_some_iff.1 roster
  obtain ⟨sameId, sameType⟩ := Prod.mk.inj alike
  exact ⟨w, before, later, name, x, y, first, last, found, sourcePin, shown, keeps, now, sameId,
    sameType⟩

/-! ## §5 Signals on Channels -/

/-- In the next tick a component sends the signal on the channel. -/
def Sends (b : Bench) (channel : Int) (v : Value) : Prop :=
  ∃ winners, Delivery.winners b.circuit.wires = .ok winners ∧ ∃ x ∈ b.circuit.components,
    (b.engine.turnOf b.circuit winners x.2).sends? channel = some v

/-- The signal on the channel has been sent in the last tick, or before it in a tick that ended in a
fault and was followed by others that did. -/
def FreshlySent (b : Bench) (deeds : List Deed) (channel : Int) (v : Value) : Prop :=
  ∃ before later, b.LastTick deeds before later ∧
    ((b.after before).Sends channel v ∨ ∃ sent faulty, before = sent ++ .tick :: faulty ∧
      (b.after sent).Quiet (.tick :: faulty) ∧ (b.after sent).Sends channel v)

/-- What is on a channel behind the turns of a tick has been sent in it or was there before. -/
theorem sends_of_broadcast {winners : List Wire} (hw : Delivery.winners b.circuit.wires = .ok winners)
    {channel : Int} {v : Value}
    (there : ((sweep (b.engine.turnOf b.circuit winners) b.circuit.components).broadcast
      b.engine.broadcast).current.get? channel = some v) :
    b.Sends channel v ∨ b.engine.broadcast.current.get? channel = some v := by
  rcases Sweep.broadcast_cases (sweep (b.engine.turnOf b.circuit winners) b.circuit.components)
    b.engine.broadcast channel with ⟨p, hp, u, sent, heard⟩ | ⟨-, same⟩
  · rw [heard] at there
    cases there
    -- a part of the sweep is the turn of one of the components
    rw [sweep_parts] at hp
    obtain ⟨x, hx, rfl⟩ := List.mem_map.1 hp
    exact .inl ⟨winners, hw, x, List.mem_of_mem_take hx, sent⟩
  · exact .inr (same ▸ there)

/-- **Step**: what waits to be heard after a deed has been sent in it, in a tick that ended in a fault,
or it has waited before. -/
theorem waiting_cases {channel : Int} {v : Value}
    (waits : (b.undergo d).engine.broadcast.current.get? channel = some v) :
    ¬ b.Renews d ∧
      (d = .tick ∧ b.Sends channel v ∨ b.engine.broadcast.current.get? channel = some v) := by
  cases d with
  | edit e => exact ⟨id, .inr waits⟩
  | pace interval => exact ⟨id, .inr waits⟩
  | reset => cases waits
  | tick =>
    rw [undergo_tick_engine] at waits
    by_cases through : b.Renews .tick
    · -- a tick that goes through leaves nothing waiting
      obtain ⟨winners, hw⟩ := Engine.winners_of_tick through
      obtain ⟨reported, engine⟩ := Engine.tick_engine hw through
      rw [engine] at waits
      cases waits
    · refine ⟨through, ?_⟩
      cases hw : Delivery.winners b.circuit.wires with
      | error fault =>
        rw [(Engine.tick_engine_of_error hw).1] at waits
        exact .inr waits
      | ok winners =>
        obtain ⟨reported, engine⟩ :=
          Engine.tick_engine_of_fault hw (Option.isSome_iff_ne_none.2 through)
        rw [engine] at waits
        exact (sends_of_broadcast hw waits).imp_left fun sends => ⟨rfl, sends⟩

/-- **Run**: what waits to be heard has been sent in a tick that ended in a fault, and none has gone
through since. -/
theorem sent_of_waiting (nothing : b.engine.broadcast.current = []) {channel : Int} {v : Value}
    (waits : (b.after deeds).engine.broadcast.current.get? channel = some v) :
    ∃ sent faulty, deeds = sent ++ .tick :: faulty ∧ (b.after sent).Quiet (.tick :: faulty) ∧
      (b.after sent).Sends channel v := by
  -- from the last deed backwards, for it is the one that may have sent or renewed
  induction deeds using List.reverseRecOn with
  | nil =>
    rw [after_nil, nothing] at waits
    cases waits
  | append_singleton deeds d ih =>
    rw [after_concat] at waits
    obtain ⟨silent, ⟨rfl, sends⟩ | waited⟩ := waiting_cases waits
    · exact ⟨deeds, [], rfl, ⟨silent, trivial⟩, sends⟩
    · obtain ⟨sent, faulty, split, quiet, sends⟩ := ih waited
      refine ⟨sent, faulty ++ [d], by rw [split]; simp, ?_, sends⟩
      rw [← List.cons_append, quiet_append, ← after_append, ← split]
      exact ⟨quiet, silent, trivial⟩

/-- A signal that is heard has been sent since the tick before the last one that went through. -/
theorem freshlySent_of_heard (nothing : b.engine.broadcast = .empty) {channel : Int} {v : Value}
    (heard : (b.after deeds).engine.broadcast.previous.get? channel = some v) :
    b.FreshlySent deeds channel v := by
  rcases exists_last_renewal b deeds with quiet | ⟨before, d, later, split, renews, quiet⟩
  · rw [quiet.signals.2, nothing] at heard
    cases heard
  · rw [split, after_append, after_cons, quiet.signals.2] at heard
    cases d with
    | edit e => exact absurd renews id
    | pace interval => exact absurd renews id
    | reset => cases heard
    | tick =>
      refine ⟨before, later, ⟨split, renews, quiet⟩, ?_⟩
      obtain ⟨winners, hw⟩ := Engine.winners_of_tick renews
      obtain ⟨reported, engine⟩ := Engine.tick_engine hw renews
      rw [undergo_tick_engine, engine] at heard
      rcases sends_of_broadcast hw heard with sends | waited
      · exact .inl sends
      · exact .inr (sent_of_waiting (by rw [nothing]; rfl) waited)

/-! ## §6 The Next Tick -/

/-- After the circuit has been cleared, nothing is delivered until the next tick. -/
theorem delivered_after_clear (integral : b.circuit.Integral) (nothing : b.engine.published = [])
    (ids : b.NoTakeover deeds) (split : deeds = before ++ .edit .clear :: later)
    (quiet : (b.after (before ++ [.edit .clear])).Quiet later) (id : Value) (pin : String) :
    (b.after deeds).circuit.delivered (b.after deeds).engine.published id pin = .absent := by
  refine Circuit.delivered_of_not_isPresent fun present => ?_
  obtain ⟨w, front, back, -, -, -, -, last, -, -, -, keeps, -⟩ :=
    fresh_of_delivered integral nothing ids rfl present
  rcases List.append_eq_append_iff.1 (last.split.symm.trans split) with
    ⟨mid, -, rest⟩ | ⟨mid, front', rest⟩
  · -- the circuit was cleared after the last tick, and then no id was in use
    cases mid with
    | nil => cases rest
    | cons d mid =>
      rw [List.cons_append, List.cons.injEq] at rest
      obtain ⟨-, rfl⟩ := rest
      have cleared := (keeps_append.1 keeps).2.2.inUse
      cases cleared
  · -- the last tick came after, but no tick went through
    cases mid with
    | nil => cases rest
    | cons d mid =>
      rw [List.cons_append, List.cons.injEq] at rest
      obtain ⟨rfl, rfl⟩ := rest
      rw [quiet_append] at quiet
      have through := last.through
      rw [front', List.append_cons, after_append] at through
      exact quiet.2.1 through

/-- After a reset nothing is delivered or heard until the next tick. -/
theorem signals_after_reset (split : deeds = before ++ .reset :: later)
    (quiet : ((b.after before).undergo .reset).Quiet later) :
    (b.after deeds).engine.published = [] ∧ (b.after deeds).engine.broadcast.previous = [] := by
  rw [split, after_append, after_cons]
  obtain ⟨published, previous⟩ := quiet.signals
  exact ⟨published.trans rfl, previous.trans rfl⟩

/-- **Freshness**: let a circuit be built from nothing, edited and run in any order, with no id taken
over since the last tick. Then what the next tick delivers to a pin is absent, or it has been shown in
the last tick by the component that is now at the start of the first wire into the pin. What it lets a
component hear has been sent in the last tick. After the circuit has been cleared the next tick
delivers nothing, and after a reset nothing is heard either. -/
theorem signals_fresh {settings : EngineSettings} {engine : Engine}
    (started : Engine.start settings = .ok engine) (deeds : List Deed)
    (ids : NoTakeover ⟨engine, .empty⟩ deeds) :
    let start : Bench := ⟨engine, .empty⟩
    let now := start.after deeds
    let Receives (id : Value) (pin : String) (v : Value) : Prop :=
      ∃ i < now.engine.served now.circuit, ∃ y, (now.undergo .tick).circuit.components[i]? = some y ∧
        y.2.id = id ∧ (pin, v) ∈ y.2.inputs
    (∀ id pin v, Receives id pin v → v.isPresent = true → start.Fresh deeds id pin v) ∧
      (∀ channel, (now.engine.broadcast.hear channel).isPresent = true →
        start.FreshlySent deeds channel (now.engine.broadcast.hear channel)) ∧
      (∀ before later, deeds = before ++ .edit .clear :: later →
        (start.after (before ++ [.edit .clear])).Quiet later →
        ∀ id pin v, Receives id pin v → v = .absent) ∧
      (∀ before later, deeds = before ++ .reset :: later →
        ((start.after before).undergo .reset).Quiet later →
        (∀ id pin v, Receives id pin v → v = .absent) ∧
          ∀ channel, now.engine.broadcast.hear channel = .absent) := by
  intro start now Receives
  have fresh := Engine.start_signals started
  have integral : now.circuit.Integral := after_integral (b := start) Circuit.integral_empty deeds
  have delivered {id : Value} {pin : String} {v : Value} (h : Receives id pin v) :
      now.circuit.delivered now.engine.published id pin = v := by
    obtain ⟨i, hi, y, hy, rfl, member⟩ := h
    rw [Engine.tick_inputs_of_lawful integral.lawful hi hy] at member
    obtain ⟨pin', -, same⟩ := List.mem_map.1 member
    cases same
    rfl
  refine ⟨?_, ?_, ?_, ?_⟩
  · intro id pin v receives present
    exact fresh_of_delivered (b := start) Circuit.integral_empty fresh.1 ids (delivered receives) present
  · intro channel present
    exact freshlySent_of_heard (b := start) fresh.2 (Channels.get?_of_hear present)
  · intro before later split quiet id pin v receives
    rw [← delivered receives]
    exact delivered_after_clear (b := start) Circuit.integral_empty fresh.1 ids split quiet id pin
  · intro before later split quiet
    obtain ⟨published, previous⟩ := signals_after_reset (b := start) split quiet
    refine ⟨fun id pin v receives => ?_, fun channel => ?_⟩
    · rw [← delivered receives]
      exact Circuit.delivered_of_nothing published id pin
    · change Channels.hear now.engine.broadcast.previous channel = .absent
      rw [previous]
      rfl

/-- A constant that has emitted before a component is connected to it. -/
def lateConnection : List Deed := [
  .edit (.addComponent (.text "Constant") .null .null),
  .edit (.updateValue (.text "Constant1") (.int 7)), .tick,
  .edit (.addComponent (.text "Abs") .null .null),
  .edit (.connect (.text "Constant1") (.text "VALUE_OUT") (.text "Abs1") (.text "SIGNAL_IN"))]

theorem signals_fresh_on_late_connection :
    let start : Bench := ⟨Engine.standardStart, .empty⟩
    Engine.start .standard = .ok Engine.standardStart ∧ start.NoTakeover lateConnection ∧
      start.Fresh lateConnection (.text "Abs1") "SIGNAL_IN" (.int 7) := by
  intro start
  have ids : start.NoTakeover lateConnection :=
    noTakeover_of_frees (b := start) Circuit.integral_empty (by decide)
  obtain ⟨fresh, -⟩ := signals_fresh Engine.start_standard lateConnection ids
  refine ⟨Engine.start_standard, ids, fresh _ _ _ ⟨1, ?_, _, rfl, rfl, ?_⟩ rfl⟩
  · change 1 < 2
    decide
  · change _ ∈ [("SIGNAL_IN", Value.int 7)]
    exact List.mem_singleton.2 rfl

/-- The run in which an id is taken over: the constant is cleared away after it has emitted, and a new
one with its id is connected before it has had a turn. -/
def newcomer : List Deed := [
  .edit (.addComponent (.text "Constant") .null .null),
  .edit (.updateValue (.text "Constant1") (.int 7)), .tick, .edit .clear,
  .edit (.addComponent (.text "Constant") .null .null),
  .edit (.addComponent (.text "Abs") .null .null),
  .edit (.connect (.text "Constant1") (.text "VALUE_OUT") (.text "Abs1") (.text "SIGNAL_IN"))]

/-- The newcomer has shown nothing, and yet the signal of the old constant is delivered for it. -/
theorem stale_after_clear :
    let now := after ⟨Engine.standardStart, .empty⟩ newcomer
    (now.circuit.components.find? (.text "Constant1")).map Component.outputs = some [] ∧
      ((now.undergo .tick).circuit.components.find? (.text "Abs1")).map Component.inputs =
        some [("SIGNAL_IN", .int 7)] :=
  ⟨rfl, rfl⟩

-- The same with channels: what was sent before the circuit was cleared is heard after it.
example :
    let now := after ⟨Engine.standardStart, .empty⟩ [
      .edit (.addComponent (.text "Constant") .null .null),
      .edit (.updateValue (.text "Constant1") (.int 7)),
      .edit (.addComponent (.text "WiFi") .null .null),
      .edit (.connect (.text "Constant1") (.text "VALUE_OUT") (.text "WiFi1") (.text "SIGNAL_IN")),
      .tick, .tick, .edit .clear]
    (now.circuit.components, now.engine.broadcast.hear 1) = ([], .int 7) := rfl

end Bench

end TickCircuit

import TickCircuit.Proofs.Engine.Freshness
import TickCircuit.Proofs.Engine.Order

/-!
# One Tick of Delay

What a transmitter sends in a tick is heard in the next one, and in no other. The argument follows the
two tables of a broadcast. In a tick the components write to one of them and read the other
(`Engine.midway_previous`); behind the tick the first holds, for every channel, what the last
transmitter tuned to it has sent (`Bench.undergo_tick_previous`), and it is read until the next tick
while the circuit is edited (`Bench.Flows.previous`). No channel outside the range of the settings is
ever written to (`Bench.Flows.within`).

Of transmitters that send on one channel in the same tick, the last in the order of the circuit is heard
(`Bench.lastSent`). `heard_one_tick_later` puts all of this together.
-/

namespace TickCircuit

/-! ## §1 Transmitters -/

namespace Component

/-- The channel to which a component is tuned, given its settings and its inputs. -/
def tunedTo (settings : EngineSettings) (x : Component) : Int :=
  Reaction.channel (x.stimulus ⟨0, 0.0, 0.0, [], [], settings⟩)

/-- The signal that a component, with the inputs that it shows, sends on a channel. -/
def sentOn (settings : EngineSettings) (channel : Int) (x : Component) : Option Value :=
  if transmits x.type = true ∧ (x.inputs.read "SIGNAL_IN").isPresent = true ∧
      x.tunedTo settings = channel then some (x.inputs.read "SIGNAL_IN")
  else none

theorem eq_of_transmits {type : ComponentType} (h : transmits type = true) : type = .known .wifi := by
  unfold transmits at h
  split at h
  · rfl
  · cases h

theorem sentOn_of_not_transmits {x : Component} (settings : EngineSettings) (channel : Int)
    (h : transmits x.type = false) : x.sentOn settings channel = none := by
  simp [sentOn, h]

/-- The turn of a transmitter: it emits what is heard on the channel to which it is tuned, and sends
its input there. -/
theorem turn_transmitter (m : Moment) (inputs before outputs : Pins) (id value : Value)
    (settings : Record) (state : Unit) :
    let x : Component := ⟨id, .known .wifi, settings, value, inputs, outputs, state⟩
    let heard := m.heard.hear (x.tunedTo m.settings)
    turn m (.ok inputs) ⟨id, .known .wifi, settings, value, before, outputs, state⟩ =
      { component := { x with value := heard, outputs := [("SIGNAL_OUT", heard.asSignal)] }
        sent := if (inputs.read "SIGNAL_IN").isPresent = true then
          some (x.tunedTo m.settings, inputs.read "SIGNAL_IN") else none } := rfl

/-- What a component sends in its turn can be read off the component after the turn. -/
theorem turn_sends {m : Moment} {inputs : Except Fault Pins} {x : Component}
    (through : (x.turn m inputs).fault = none) (channel : Int) :
    (x.turn m inputs).sends? channel = (x.turn m inputs).component.sentOn m.settings channel := by
  cases inputs with
  | error fault => cases through
  | ok pins =>
    cases can : transmits x.type with
    | false =>
      have type : transmits (x.turn m (.ok pins)).component.type = false := by
        rw [show (x.turn m (.ok pins)).component.type = x.type from
          congrArg Fixture.type (turn_fixture m (.ok pins) x), can]
      rw [sentOn_of_not_transmits m.settings channel type, Part.sends?, turn_sent m (.ok pins) can]
    | true =>
      obtain ⟨id, type, settings, value, before, outputs, state⟩ := x
      obtain rfl : type = .known .wifi := eq_of_transmits can
      rw [turn_transmitter]
      unfold Part.sends? sentOn
      dsimp only
      -- the channel depends on neither the value nor the outputs, which the turn has changed
      show _ = if transmits (.known .wifi) = true ∧ (pins.read "SIGNAL_IN").isPresent = true ∧
        tunedTo m.settings ⟨id, .known .wifi, settings, value, pins, outputs, state⟩ = channel then
          some (pins.read "SIGNAL_IN") else none
      by_cases present : (pins.read "SIGNAL_IN").isPresent = true
      · simp [present, transmits]
      · simp [present]

/-- After its turn a transmitter shows what was heard on the channel to which it is tuned. -/
theorem turn_hears {m : Moment} {inputs : Except Fault Pins} {x : Component}
    (wifi : x.type = .known .wifi) (through : (x.turn m inputs).fault = none) :
    let y := (x.turn m inputs).component
    let heard := m.heard.hear (y.tunedTo m.settings)
    y.value = heard ∧ y.outputs = [("SIGNAL_OUT", heard.asSignal)] := by
  cases inputs with
  | error fault => cases through
  | ok pins =>
    obtain ⟨id, type, settings, value, before, outputs, state⟩ := x
    obtain rfl : type = .known .wifi := wifi
    exact ⟨rfl, rfl⟩

end Component

/-! ## §2 The Range of the Channels -/

/-- The settings that are read from a document have a range of channels that is not empty. -/
theorem EngineSettings.ofRecord_channels (r : Record) :
    (EngineSettings.ofRecord r).1.channelMin ≤ (EngineSettings.ofRecord r).1.channelMax := by
  have settled (low high : Value) (log : List Log.Entry) :
      let range := (settle (channels? low high) (standard.channelMin, standard.channelMax) log).1
      range.1 ≤ range.2 := by
    cases accepted : channels? low high with
    | none => exact (by decide : standard.channelMin ≤ standard.channelMax)
    | some range =>
      unfold channels? at accepted
      split at accepted
      · split at accepted
        · next ordered =>
          cases accepted
          exact ordered
        · cases accepted
      · cases accepted
  exact settled _ _ _

/-- Whatever channel is asked for, it is held within the range. -/
theorem Reaction.channel_bounds (s : Stimulus)
    (range : s.moment.settings.channelMin ≤ s.moment.settings.channelMax) :
    s.moment.settings.channelMin ≤ channel s ∧ channel s ≤ s.moment.settings.channelMax := by
  unfold channel
  dsimp only
  omega

namespace Component

/-- A component sends on no channel but one within the range. -/
theorem turn_sent_bounds {m : Moment} {inputs : Except Fault Pins} {x : Component}
    (range : m.settings.channelMin ≤ m.settings.channelMax) {channel : Int} {v : Value}
    (sent : (x.turn m inputs).sent = some (channel, v)) :
    m.settings.channelMin ≤ channel ∧ channel ≤ m.settings.channelMax := by
  cases can : transmits x.type with
  | false =>
    rw [turn_sent m inputs can] at sent
    cases sent
  | true =>
    obtain ⟨id, type, settings, value, before, outputs, state⟩ := x
    obtain rfl : type = .known .wifi := eq_of_transmits can
    cases inputs with
    | error fault => cases sent
    | ok pins =>
      rw [turn_transmitter] at sent
      dsimp only at sent
      split at sent
      · cases sent
        exact Reaction.channel_bounds _ range
      · cases sent

end Component

/-- The channels that have a signal. -/
def Broadcast.channels (b : Broadcast) : List Int := (b.current ++ b.previous).map Prod.fst

/-- All channels that have a signal lie within a range. -/
def Broadcast.Within (b : Broadcast) (low high : Int) : Prop :=
  ∀ channel ∈ b.channels, low ≤ channel ∧ channel ≤ high

theorem Channels.mem_put {cs : Channels} {channel other : Int} {v : Value}
    (h : other ∈ (cs.put channel v).map Prod.fst) : other = channel ∨ other ∈ cs.map Prod.fst := by
  induction cs with
  | nil => simpa [put] using h
  | cons entry rest ih =>
    obtain ⟨c, w⟩ := entry
    rw [put] at h
    split at h
    · exact .inr (by simpa using h)
    · rw [List.map_cons, List.mem_cons] at h ⊢
      rcases h with here | later
      · exact .inr (.inl here)
      · exact (ih later).imp_right .inr

namespace Broadcast

variable {b : Broadcast} {low high : Int}

theorem Within.send (h : b.Within low high) {channel : Int} (v : Value)
    (bounds : low ≤ channel ∧ channel ≤ high) : (b.send channel v).Within low high := by
  unfold Broadcast.send
  split
  · intro other member
    unfold channels at member
    rw [List.map_append, List.mem_append] at member
    rcases member with written | read
    · rcases Channels.mem_put written with rfl | before
      · exact bounds
      · exact h other (by simp only [channels, List.map_append, List.mem_append, before, true_or])
    · exact h other (by simp only [channels, List.map_append, List.mem_append, read, or_true])
  · exact h

theorem Within.swap (h : b.Within low high) : b.swap.Within low high := by
  intro channel member
  refine h channel ?_
  simp only [channels, Broadcast.swap, List.nil_append] at member
  simp only [channels, List.map_append, List.mem_append, member, true_or]

/-- Parts that send within the range keep a broadcast within it. -/
theorem Within.sweep (h : b.Within low high) {s : Sweep}
    (bounds : ∀ p ∈ s.parts, ∀ channel v, p.2.sent = some (channel, v) →
      low ≤ channel ∧ channel ≤ high) : (s.broadcast b).Within low high := by
  rw [Sweep.broadcast_eq_foldl]
  generalize s.parts = parts at bounds
  induction parts generalizing b with
  | nil => exact h
  | cons p rest ih =>
    obtain ⟨first, others⟩ := List.forall_mem_cons.1 bounds
    refine ih ?_ others
    unfold Part.addTo
    split
    · next channel v sent => exact h.send v (first channel v sent)
    · exact h

end Broadcast

/-! ## §3 In a Tick -/

/-- After a sweep each channel has the signal of the last part that sends on it, or the one from before
when none does. -/
theorem Sweep.broadcast_current (s : Sweep) (b : Broadcast) (channel : Int) :
    (s.broadcast b).current.get? channel =
      (s.parts.filterMap fun p => p.2.sends? channel).getLast?.or (b.current.get? channel) := by
  rw [broadcast_eq_foldl]
  generalize s.parts = parts
  -- from the last part backwards, as later signals replace earlier ones
  induction parts using List.reverseRecOn with
  | nil => rfl
  | append_singleton parts p ih =>
    rw [List.map_append, List.map_singleton, List.foldl_append, List.foldl_cons, List.foldl_nil,
      Part.addTo_current, ih, List.filterMap_append, List.getLast?_append]
    cases sends : p.2.sends? channel with
    | none => simp [sends]
    | some v => simp [sends]

namespace Engine

variable {e : Engine} {c : Circuit}

/-- The broadcasts when, in the next tick, the first `k` components have had their turn. -/
def midway (e : Engine) (c : Circuit) (k : Nat) : Broadcast :=
  match Delivery.winners c.wires with
  | .ok winners => (sweep (e.turnOf c winners) (c.components.take k)).broadcast e.broadcast
  | .error _ => e.broadcast

/-- When all have had their turn, the broadcasts are swapped. -/
theorem tick_broadcast (done : (e.tick c).fault = none) :
    (e.tick c).engine.broadcast = (e.midway c c.components.length).swap := by
  obtain ⟨winners, hw⟩ := winners_of_tick done
  obtain ⟨reported, engine⟩ := tick_engine hw done
  rw [engine, midway, hw]
  dsimp only
  rw [List.take_length]

/-- What is heard does not change while a tick goes on. -/
theorem midway_previous (e : Engine) (c : Circuit) (k : Nat) :
    (e.midway c k).previous = e.broadcast.previous := by
  unfold midway
  split
  · exact Sweep.broadcast_previous _ _
  · rfl

/-- Nothing is sent outside the range of the settings while a tick goes on. -/
theorem midway_within (range : e.settings.channelMin ≤ e.settings.channelMax)
    (before : e.broadcast.Within e.settings.channelMin e.settings.channelMax) (c : Circuit) (k : Nat) :
    (e.midway c k).Within e.settings.channelMin e.settings.channelMax := by
  unfold midway
  split
  · refine before.sweep fun p hp channel v sent => ?_
    -- a part of the sweep is the turn of a component
    rw [sweep_parts] at hp
    obtain ⟨x, -, rfl⟩ := List.mem_map.1 hp
    exact Component.turn_sent_bounds (m := e.advanced.moment c) range sent
  · exact before

/-- Transmitters show what could be heard before the tick. -/
theorem tick_hears (done : (e.tick c).fault = none) {x : Value × Component}
    (hx : x ∈ (e.tick c).circuit.components) (wifi : x.2.type = .known .wifi) :
    let heard := e.broadcast.hear (x.2.tunedTo e.settings)
    x.2.value = heard ∧ x.2.outputs = [("SIGNAL_OUT", heard.asSignal)] := by
  obtain ⟨winners, hw⟩ := winners_of_tick done
  rw [tick_components hw done] at hx
  obtain ⟨y, hy, rfl⟩ := List.mem_map.1 hx
  have type : y.2.type = .known .wifi :=
    (congrArg Fixture.type (Component.turn_fixture _ _ y.2)).symm.trans wifi
  exact Component.turn_hears type (turnOf_fault hw done hy)

end Engine

namespace Bench

variable {b : Bench} {d : Deed} {deeds before between : List Deed}

/-- The signal that the last transmitter to send on a channel has sent there in the tick just over. -/
def lastSent (b : Bench) (channel : Int) : Option Value :=
  (b.circuit.components.filterMap fun x => x.2.sentOn b.engine.settings channel).getLast?

/-- A tick that goes through replaces what can be heard: on every channel it is what was sent last in
this tick or, where nothing was sent, what an unfinished tick has left behind. -/
theorem undergo_tick_previous (done : (b.engine.tick b.circuit).fault = none) (channel : Int) :
    (b.undergo .tick).engine.broadcast.previous.get? channel =
      ((b.undergo .tick).lastSent channel).or (b.engine.broadcast.current.get? channel) := by
  obtain ⟨winners, hw⟩ := Engine.winners_of_tick done
  obtain ⟨reported, engine⟩ := Engine.tick_engine hw done
  have swept : (sweep (b.engine.turnOf b.circuit winners) b.circuit.components).fault = none := by
    rw [← Engine.tick_fault hw, done]
  rw [undergo_tick_engine, engine]
  show Channels.get? (Sweep.broadcast _ _).current channel = _
  rw [Sweep.broadcast_current, sweep_parts_of_no_fault swept]
  congr 2
  -- what each part sends is what its component shows
  show _ = (b.engine.tick b.circuit).circuit.components.filterMap _
  rw [Engine.tick_components hw done, List.filterMap_map, List.filterMap_map]
  refine List.filterMap_congr fun x hx => ?_
  rw [Function.comp, Function.comp, undergo_tick_engine, Engine.tick_settings]
  exact Component.turn_sends (Engine.turnOf_fault hw done hx) channel

/-! ## §4 Runs -/

/-- The deed is no reset, and if it is a tick, it goes through. -/
def Passes (b : Bench) : Deed → Prop
  | .tick => (b.engine.tick b.circuit).fault = none
  | .reset => False
  | _ => True

/-- The bench is never reset, and all ticks go through. -/
def Flows : Bench → List Deed → Prop
  | _, [] => True
  | b, d :: rest => b.Passes d ∧ (b.undergo d).Flows rest

theorem flows_append {later : List Deed} :
    b.Flows (deeds ++ later) ↔ b.Flows deeds ∧ (b.after deeds).Flows later := by
  induction deeds generalizing b with
  | nil => exact ⟨fun h => ⟨trivial, h⟩, fun h => h.2⟩
  | cons d rest ih => rw [List.cons_append, Flows, Flows, ih, after_cons, and_assoc]

/-- Where there are no ticks and no resets, the signals stay. -/
theorem Flows.quiet (flows : b.Flows deeds) (h : .tick ∉ deeds) : b.Quiet deeds := by
  induction deeds generalizing b with
  | nil => trivial
  | cons d rest ih =>
    obtain ⟨passes, flows⟩ := flows
    rw [List.mem_cons, not_or] at h
    refine ⟨?_, ih flows h.2⟩
    cases d with
    | tick => exact absurd rfl h.1
    | reset => exact passes.elim
    | edit e => exact id
    | pace interval => exact id

/-- What every deed of such a run keeps holds after the run. -/
theorem Flows.induction {P : Bench → Prop} (step : ∀ b d, b.Passes d → P b → P (b.undergo d))
    (flows : b.Flows deeds) (start : P b) : P (b.after deeds) := by
  induction deeds generalizing b with
  | nil => exact start
  | cons d rest ih => exact ih flows.2 (step b d flows.1 start)

/-- Between two ticks nothing is waiting to be swapped, and the channels that have a signal lie within
the range of the settings. -/
structure Settled (b : Bench) : Prop where
  range : b.engine.settings.channelMin ≤ b.engine.settings.channelMax
  current : b.engine.broadcast.current = []
  within : b.engine.broadcast.Within b.engine.settings.channelMin b.engine.settings.channelMax

/-- **Step**: a tick that goes through and an edit leave the broadcasts settled. -/
theorem Settled.undergo (h : b.Settled) (passes : b.Passes d) : (b.undergo d).Settled := by
  cases d with
  | edit e => exact ⟨h.range, h.current, h.within⟩
  | pace interval => exact ⟨h.range, h.current, h.within⟩
  | reset => exact passes.elim
  | tick =>
    have settings := b.undergo_settings .tick
    have swapped : (b.undergo .tick).engine.broadcast =
        (b.engine.midway b.circuit b.circuit.components.length).swap := Engine.tick_broadcast passes
    refine ⟨by rw [settings]; exact h.range, by rw [swapped]; rfl, ?_⟩
    rw [settings, swapped]
    exact (Engine.midway_within h.range h.within _ _).swap

/-- **Run**: they are settled after every run. -/
theorem Flows.settled (flows : b.Flows deeds) (h : b.Settled) : (b.after deeds).Settled :=
  flows.induction (fun _ _ passes settled => settled.undergo passes) h

theorem settled_of_start {r : Record} {engine : Engine}
    (started : Engine.start (EngineSettings.ofRecord r).1 = .ok engine) (c : Circuit) :
    Settled ⟨engine, c⟩ := by
  obtain ⟨-, broadcast⟩ := Engine.start_signals started
  have settings : engine.settings = (EngineSettings.ofRecord r).1 := Engine.start_settings started
  refine ⟨?_, ?_, ?_⟩
  · show engine.settings.channelMin ≤ engine.settings.channelMax
    rw [settings]
    exact EngineSettings.ofRecord_channels r
  · show engine.broadcast.current = []
    rw [broadcast]
    rfl
  · show engine.broadcast.Within _ _
    rw [broadcast]
    simp [Broadcast.Within, Broadcast.channels, Broadcast.empty]

/-- What can be heard after a run is what was sent in its last tick. -/
theorem Flows.previous (h : b.Settled) (flows : b.Flows (before ++ .tick :: between))
    (last : .tick ∉ between) (channel : Int) :
    (b.after (before ++ .tick :: between)).engine.broadcast.previous.get? channel =
      ((b.after before).undergo .tick).lastSent channel := by
  obtain ⟨first, passes, later⟩ := flows_append.1 flows
  rw [after_append, after_cons, (later.quiet last).signals.2, undergo_tick_previous passes,
    (first.settled h).current]
  exact Option.or_none

/-! ## §5 Delay -/

/-- What a transmitter sends is present. -/
theorem isPresent_of_lastSent {channel : Int} {v : Value} (h : b.lastSent channel = some v) :
    v.isPresent = true := by
  obtain ⟨x, -, sent⟩ := List.mem_filterMap.1 (List.mem_of_getLast? h)
  unfold Component.sentOn at sent
  split at sent
  · next sends =>
    cases sent
    exact sends.2.1
  · cases sent

/-- In the next tick every transmitter emits what is heard on the channel to which it is tuned. -/
def Emits (b : Bench) (heard : Int → Value) : Prop :=
  ∀ x ∈ (b.undergo .tick).circuit.components, x.2.type = .known .wifi →
    let signal := heard (x.2.tunedTo b.engine.settings)
    x.2.value = signal ∧ x.2.outputs = [("SIGNAL_OUT", signal)]

theorem emits_of_previous {heard : Int → Option Value}
    (done : (b.engine.tick b.circuit).fault = none)
    (previous : ∀ channel, b.engine.broadcast.previous.get? channel = heard channel)
    (present : ∀ channel v, heard channel = some v → v.isPresent = true) :
    b.Emits fun channel => (heard channel).getD .absent := by
  intro x hx wifi
  have signal (channel : Int) :
      ((heard channel).getD .absent).asSignal = (heard channel).getD .absent := by
    cases sent : heard channel with
    | none => rfl
    | some v => exact if_pos (present channel v sent)
  obtain ⟨value, outputs⟩ := Engine.tick_hears done hx wifi
  rw [Broadcast.hear, Channels.hear, previous, signal] at value outputs
  rw [signal] at outputs
  exact ⟨value, outputs⟩

/-- **Delay**: in a run in which the engine is never reset and all ticks go through, while the circuit
is edited at will, a transmitter emits in a tick what the last transmitter tuned to its channel has
sent in the tick before, and nothing if there is none or the tick is the first.

Nothing of what is sent while a tick goes on changes what is heard in it, behind a tick nothing is left
of what was heard before it, and no channel outside the range ever has a signal. -/
theorem heard_one_tick_later {r : Record} {engine : Engine}
    (started : Engine.start (EngineSettings.ofRecord r).1 = .ok engine) (c : Circuit)
    {deeds : List Deed} (flows : Flows ⟨engine, c⟩ deeds) :
    let start : Bench := ⟨engine, c⟩
    let now := start.after deeds
    let low := engine.settings.channelMin
    let high := engine.settings.channelMax
    -- between the ticks
    (now.engine.broadcast.current = [] ∧ now.engine.broadcast.Within low high ∧
      ∀ before between, deeds = before ++ .tick :: between → .tick ∉ between → ∀ channel,
        now.engine.broadcast.previous.get? channel =
          ((start.after before).undergo .tick).lastSent channel) ∧
    -- in the next tick
    ((now.engine.tick now.circuit).fault = none →
      (∀ k, (now.engine.midway now.circuit k).previous = now.engine.broadcast.previous ∧
        (now.engine.midway now.circuit k).Within low high) ∧
      (.tick ∉ deeds → now.Emits fun _ => .absent) ∧
      ∀ before between, deeds = before ++ .tick :: between → .tick ∉ between →
        now.Emits fun channel => (((start.after before).undergo .tick).lastSent channel).getD .absent) := by
  intro start now low high
  have fresh := settled_of_start started c
  have settled : now.Settled := flows.settled fresh
  have settings : now.engine.settings = engine.settings := after_settings start deeds
  have within : now.engine.broadcast.Within low high := by
    have within := settled.within
    rwa [settings] at within
  have previous (before between : List Deed) (split : deeds = before ++ .tick :: between)
      (last : .tick ∉ between) (channel : Int) : now.engine.broadcast.previous.get? channel =
        ((start.after before).undergo .tick).lastSent channel := by
    subst split
    exact flows.previous fresh last channel
  refine ⟨⟨settled.current, within, previous⟩, fun done => ⟨fun k => ?_, fun first => ?_, ?_⟩⟩
  · refine ⟨now.engine.midway_previous now.circuit k, ?_⟩
    have midway := Engine.midway_within settled.range settled.within now.circuit k
    rwa [settings] at midway
  · -- before the first tick nothing can be heard
    have silent (channel : Int) : now.engine.broadcast.previous.get? channel = none := by
      rw [(flows.quiet first).signals.2, (Engine.start_signals started).2]
      rfl
    exact emits_of_previous done silent fun _ _ h => by cases h
  · intro before between split last
    exact emits_of_previous done (previous before between split last) fun _ _ =>
      isPresent_of_lastSent

/-- The pairs before their third tick, in which the transmitters have sent 1 and 2. -/
theorem after_two_ticks :
    let start : Bench := ⟨Engine.standardStart, Engine.pairs false 1 2⟩
    let sent : Ticked := {
      engine := Engine.engineOf (Engine.pairsHearing false 1 2 (.int 1) (.int 2)) 2
        (0.0 + 100.0 + 100.0) [(1, .int 2)]
      circuit := Engine.pairsHearing false 1 2 (.int 1) (.int 2) }
    start.Flows [.tick, .tick] ∧ start.after [.tick, .tick] = sent.bench := by
  intro start sent
  have first : start.undergo .tick = Ticked.bench {
      engine := Engine.engineOf (Engine.pairsHearing false 1 2 .absent .absent) 1 (0.0 + 100.0) []
      circuit := Engine.pairsHearing false 1 2 .absent .absent } :=
    congrArg Ticked.bench (Engine.tick_pairs false 1 2)
  have second := Engine.tick_pairs_again false 1 2 (0.0 + 100.0)
  refine ⟨⟨congrArg Ticked.fault (Engine.tick_pairs false 1 2), ?_, trivial⟩, ?_⟩
  · rw [first]
    exact congrArg Ticked.fault second
  · rw [after_cons, first]
    exact congrArg Ticked.bench second

/-- Of two transmitters on one channel that send 1 and 2 in the second tick, the latter is heard in the
third. -/
theorem heard_one_tick_later_of_pairs :
    let start : Bench := ⟨Engine.standardStart, Engine.pairs false 1 2⟩
    let now := start.after [.tick, .tick]
    Engine.start (EngineSettings.ofRecord []).1 = .ok Engine.standardStart ∧
      start.Flows [.tick, .tick] ∧ (now.engine.tick now.circuit).fault = none ∧
      now.Emits fun channel => if channel = 1 then .int 2 else .absent := by
  intro start now
  obtain ⟨flows, second⟩ := after_two_ticks
  have done : (now.engine.tick now.circuit).fault = none := by
    rw [show now = _ from second]
    rfl
  have emits := ((heard_one_tick_later (r := []) Engine.start_standard _ flows).2 done).2.2
    [.tick] [] rfl (by simp)
  have heard : (fun channel => (((start.after [.tick]).undergo .tick).lastSent channel).getD .absent) =
      fun channel => if channel = 1 then .int 2 else .absent := by
    funext channel
    rw [← after_concat, show start.after ([.tick] ++ [.tick]) = _ from second]
    by_cases one : channel = 1
    · subst one
      rfl
    · -- the transmitters are tuned to the first channel
      rw [if_neg one, lastSent, List.filterMap_eq_nil_iff.2]
      · rfl
      · intro x hx
        rcases Engine.mem_inPairs hx with rfl | rfl | rfl | rfl
        · exact Component.sentOn_of_not_transmits _ _ rfl
        · exact Component.sentOn_of_not_transmits _ _ rfl
        · exact if_neg fun sends => one sends.2.2.symm
        · exact if_neg fun sends => one sends.2.2.symm
  exact ⟨Engine.start_standard, flows, done, heard ▸ emits⟩

end Bench

end TickCircuit

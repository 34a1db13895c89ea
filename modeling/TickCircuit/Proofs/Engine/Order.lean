import TickCircuit.Proofs.Engine.Broadcast
import TickCircuit.Proofs.Engine.Tick

/-!
# The Order of the Components

A component cannot tell in which order the components of a circuit have been created: what is
delivered to it is looked up by ids, and what it hears is looked up by channels. So two circuits that
differ in this order only run alike (`run_rearranged`), with one exception. Of several signals sent on
a channel in one tick the last one is heard, and which one is the last depends on the order. The law
therefore holds of runs in which the components that send on a channel in the same tick agree
(`Unanimous`), as they do when no more than one component can send (`run_of_one_sender`).
-/

namespace TickCircuit

/-! ## §1 What a Component Can Tell -/

/-- Moments that are the same but for the order of the channels. -/
def Moment.Alike (m m' : Moment) : Prop :=
  ∃ heard : Channels, m' = { m with heard } ∧ ∀ channel, heard.hear channel = m.heard.hear channel

namespace Component

variable {m m' : Moment}

/-- Only broadcasts are heard, and they are heard channel by channel. -/
theorem ofKind_congr (h : m.Alike m') (id value : Value) (settings : Record) (inputs : Pins)
    (k : Kind) (state : k.shape.State) :
    Reaction.ofKind ⟨id, settings, inputs, value, m'⟩ k state =
      Reaction.ofKind ⟨id, settings, inputs, value, m⟩ k state := by
  obtain ⟨heard, rfl, hears⟩ := h
  cases k with
  | wifi =>
    -- the one reaction that reads what is heard, and it reads one channel of it
    have same := hears (Reaction.channel ⟨id, settings, inputs, value, m⟩)
    unfold Reaction.ofKind Reaction.wifi
    dsimp only
    rw [show heard.hear (Reaction.channel ⟨id, settings, inputs, value, { m with heard }⟩) = _
      from same]
    rfl
  | _ => rfl

theorem react_congr (h : m.Alike m') (c : Component) : c.react m' = c.react m := by
  obtain ⟨id, type, settings, value, inputs, outputs, state⟩ := c
  cases type with
  | foreign name => rfl
  | known k =>
    unfold react
    dsimp only
    rw [ofKind_congr h]

theorem turn_congr_moment (h : m.Alike m') (inputs : Except Fault Pins) (c : Component) :
    c.turn m' inputs = c.turn m inputs := by
  have act (x : Component) : x.act m' = x.act m := by
    unfold Component.act
    rw [react_congr h]
  obtain ⟨heard, same, -⟩ := h
  have settings : m'.settings = m.settings := by rw [same]
  unfold turn
  simp only [act, settings]

end Component

namespace Delivery

/-- What is delivered is looked up, so the order of the components and of what they have published
does not matter to it. -/
theorem inputs_congr_find? {t t' : Table Component} {p p' : Published}
    (components : ∀ id, t'.find? id = t.find? id) (published : ∀ id, p'.find? id = p.find? id)
    (winners : List Wire) (x : Component) : inputs t' p' winners x = inputs t p winners x := by
  have values : p'.get? = p.get? := by
    funext id pin
    unfold Published.get?
    simp only [published]
  unfold inputs signal Table.contains
  simp only [components, values]

end Delivery

/-! ## §2 Two Engines -/

/-- The same components in another order, and the same wires. -/
structure Circuit.Rearranged (c c' : Circuit) : Prop where
  components : c'.components.Perm c.components
  wires : c'.wires = c.wires

namespace Engine

variable {e e' : Engine} {c c' : Circuit} {winners : List Wire}

/-- Engines that differ in the order of their tables only. -/
structure InTune (e e' : Engine) : Prop where
  settings : e'.settings = e.settings
  interval : e'.interval = e.interval
  ticks : e'.ticks = e.ticks
  elapsed : e'.elapsed = e.elapsed
  published : ∀ id, e'.published.find? id = e.published.find? id
  current : ∀ channel, e'.broadcast.current.get? channel = e.broadcast.current.get? channel
  previous : ∀ channel, e'.broadcast.previous.get? channel = e.broadcast.previous.get? channel

theorem InTune.refl (e : Engine) : e.InTune e :=
  ⟨rfl, rfl, rfl, rfl, fun _ => rfl, fun _ => rfl, fun _ => rfl⟩

theorem InTune.moment_alike (tune : e.InTune e') (wires : c'.wires = c.wires) :
    (e.advanced.moment c).Alike (e'.advanced.moment c') := by
  refine ⟨e'.broadcast.previous, ?_, fun channel => ?_⟩
  · simp only [moment, advanced, tune.settings, tune.interval, tune.ticks, tune.elapsed, wires]
  · change Channels.hear _ channel = Channels.hear e.broadcast.previous channel
    unfold Channels.hear
    rw [tune.previous]

/-- Every component has the same turn, whatever order the components stand in. -/
theorem turnOf_rearranged (indexed : c.Indexed) (same : c.Rearranged c') (tune : e.InTune e')
    (winners : List Wire) (x : Component) : e'.turnOf c' winners x = e.turnOf c winners x := by
  have components := Table.find?_perm indexed.distinct same.components
  unfold turnOf
  rw [Delivery.inputs_congr_find? components tune.published,
    Component.turn_congr_moment (tune.moment_alike same.wires)]

/-- No two components send different signals on one channel in the next tick. -/
def Unanimous (e : Engine) (c : Circuit) : Prop :=
  ∀ winners, Delivery.winners c.wires = .ok winners →
    ∀ x ∈ c.components, ∀ y ∈ c.components, ∀ channel v w,
      (e.turnOf c winners x.2).sends? channel = some v →
      (e.turnOf c winners y.2).sends? channel = some w → v = w

/-! ## §3 One Tick -/

/-- What is heard after a tick in which nobody contradicts another does not depend on the order of the
turns. -/
theorem broadcast_rearranged {t t' : Table Component} {turn : Component → Part}
    (perm : t'.Perm t) {s s' : Sweep} (parts : s.parts = t.map fun x => (x.1, turn x.2))
    (parts' : s'.parts = t'.map fun x => (x.1, turn x.2)) {b b' : Broadcast} {channel : Int}
    (agree : ∀ x ∈ t, ∀ y ∈ t, ∀ v w, (turn x.2).sends? channel = some v →
      (turn y.2).sends? channel = some w → v = w)
    (before : b'.current.get? channel = b.current.get? channel) :
    (s'.broadcast b').current.get? channel = (s.broadcast b).current.get? channel := by
  have member {x : Value × Part} : x ∈ s'.parts ↔ x ∈ s.parts := by
    rw [parts, parts']
    exact (perm.map _).mem_iff
  have origin {x : Value × Part} (hx : x ∈ s.parts) : ∃ y ∈ t, x.2 = turn y.2 := by
    rw [parts] at hx
    obtain ⟨y, hy, rfl⟩ := List.mem_map.1 hx
    exact ⟨y, hy, rfl⟩
  -- the last to send may be another one in each order, but they agree on what they send
  rcases s.broadcast_cases b channel with ⟨x, hx, v, sent, heard⟩ | ⟨silent, same⟩
  · rcases s'.broadcast_cases b' channel with ⟨y, hy, w, sent', heard'⟩ | ⟨silent', -⟩
    · obtain ⟨x', hx', turnX⟩ := origin hx
      obtain ⟨y', hy', turnY⟩ := origin (member.1 hy)
      rw [turnX] at sent
      rw [turnY] at sent'
      rw [heard, heard', agree x' hx' y' hy' v w sent sent']
    · rw [silent' x (member.2 hx)] at sent
      cases sent
  · rcases s'.broadcast_cases b' channel with ⟨y, hy, w, sent', -⟩ | ⟨-, same'⟩
    · rw [silent y (member.1 hy)] at sent'
      cases sent'
    · rw [same, same', before]

/-- **Step**: a tick in which nobody contradicts another on a channel does the same to the components
in any order, and leaves engines behind that differ in the order of their tables only. -/
theorem tick_rearranged (indexed : c.Indexed) (same : c.Rearranged c') (tune : e.InTune e')
    (unanimous : e.Unanimous c) :
    (e'.tick c').fault.isSome = (e.tick c).fault.isSome ∧
      ((e.tick c).fault = none →
        (e.tick c).circuit.Rearranged (e'.tick c').circuit ∧
          (e.tick c).engine.InTune (e'.tick c').engine) := by
  cases hw : Delivery.winners c.wires with
  | error fault =>
    have hw' : Delivery.winners c'.wires = .error fault := by rw [same.wires, hw]
    rw [(tick_engine_of_error hw).2, (tick_engine_of_error hw').2]
    exact ⟨rfl, fun h => by cases h⟩
  | ok winners =>
    have hw' : Delivery.winners c'.wires = .ok winners := by rw [same.wires, hw]
    -- the wires are the same, so both ticks come to the same turns, taken in different orders
    have turns : e'.turnOf c' winners = e.turnOf c winners :=
      funext fun x => turnOf_rearranged indexed same tune winners x
    have through : (e'.tick c').fault = none ↔ (e.tick c).fault = none := by
      rw [tick_fault hw, tick_fault hw', sweep_fault_eq_none_iff, sweep_fault_eq_none_iff, turns]
      simp only [same.components.mem_iff]
    refine ⟨?_, fun done => ?_⟩
    · rw [Bool.eq_iff_iff, Option.isSome_iff_ne_none, Option.isSome_iff_ne_none, Ne, Ne, through]
    · have done' := through.2 done
      have components : (e'.tick c').circuit.components.Perm (e.tick c).circuit.components := by
        rw [tick_components hw done, tick_components hw' done', turns]
        exact same.components.map _
      have indexed' : c'.Indexed :=
        ⟨fun x hx => indexed.ids x (same.components.subset hx), indexed.distinct.perm same.components⟩
      refine ⟨⟨components, by rw [tick_wires, tick_wires, same.wires]⟩, ?_⟩
      obtain ⟨reported, engine⟩ := tick_engine hw done
      obtain ⟨reported', engine'⟩ := tick_engine hw' done'
      have parts := sweep_parts_of_no_fault (tick_fault hw ▸ done)
      have parts' := sweep_parts_of_no_fault (tick_fault hw' ▸ done')
      rw [turns] at parts'
      exact {
        settings := by rw [engine, engine']; exact tune.settings
        interval := by rw [engine, engine']; exact tune.interval
        ticks := by rw [engine, engine']; exact congrArg (· + 1) tune.ticks
        elapsed := by
          rw [engine, engine']
          dsimp only [advanced]
          rw [tune.elapsed, tune.interval]
        published := by
          intro id
          rw [tick_find?_published indexed.ids done, tick_find?_published indexed'.ids done',
            Table.find?_perm (tick_indexed indexed).distinct components]
        current := by
          -- the tick is over, and nothing has been sent in the next one yet
          intro channel
          rw [engine, engine']
          rfl
        previous := by
          intro channel
          rw [engine, engine', turns]
          refine broadcast_rearranged same.components parts parts' ?_ (tune.current channel)
          exact fun x hx y hy v w => unanimous winners hw x hx y hy channel v w }

/-! ## §4 Runs -/

/-- **Run**: as long as nobody contradicts another on a channel, the two runs go through or end in a
fault together. -/
theorem run_inTune (indexed : c.Indexed) (same : c.Rearranged c') (e : Engine) (n : Nat)
    (unanimous : ∀ k < n, (e.run c k).engine.Unanimous (e.run c k).circuit) :
    (e.run c' n).fault.isSome = (e.run c n).fault.isSome ∧
      ((e.run c n).fault = none → (e.run c n).circuit.Indexed ∧
        (e.run c n).circuit.Rearranged (e.run c' n).circuit ∧
          (e.run c n).engine.InTune (e.run c' n).engine) := by
  induction n with
  | zero => exact ⟨rfl, fun _ => ⟨indexed, same, .refl e⟩⟩
  | succ n ih =>
    obtain ⟨faults, stillAlike⟩ := ih fun k hk => unanimous k (Nat.lt_succ_of_lt hk)
    cases ended : (e.run c n).fault with
    | some fault =>
      -- both runs have ended before this tick
      have stopped : (e.run c n).fault.isSome = true := by rw [ended]; rfl
      rw [run_succ_of_fault stopped, run_succ_of_fault (faults.trans stopped)]
      refine ⟨faults, fun h => ?_⟩
      rw [h] at stopped
      cases stopped
    | none =>
      have going : (e.run c' n).fault = none := by
        rw [ended] at faults
        exact Option.not_isSome_iff_eq_none.1 (by rw [faults]; exact Bool.false_ne_true)
      obtain ⟨indexed', rearranged, tune⟩ := stillAlike ended
      obtain ⟨circuit, engine, fault⟩ := run_succ ended
      obtain ⟨circuit', engine', fault'⟩ := run_succ going
      obtain ⟨together, alike⟩ := tick_rearranged indexed' rearranged tune
        (unanimous n (Nat.lt_succ_self n))
      rw [fault, fault', circuit, circuit', engine, engine']
      exact ⟨together, fun done => ⟨tick_indexed indexed', alike done⟩⟩

/-! ## §5 One Sender -/

end Engine

namespace Reaction

theorem arithmetic_sent (s : Stimulus) (history : History)
    (operation : Number → Number → Number) : (arithmetic s history operation).sent = none := by
  unfold arithmetic
  split
  · split <;> rfl
  · rfl

theorem gate_sent (s : Stimulus) (history : History) (test : Value → Value → Bool) :
    (gate s history test).sent = none := by
  unfold gate
  split <;> rfl

/-- Nothing but a transmitter sends. -/
theorem ofKind_sent (s : Stimulus) {k : Kind} (h : k ≠ .wifi) (state : k.shape.State) :
    (ofKind s k state).sent = none := by
  cases k with
  | wifi => exact absurd rfl h
  | adder => exact arithmetic_sent s state _
  | subtract => exact arithmetic_sent s state _
  | multiply => exact arithmetic_sent s state _
  | divide => exact arithmetic_sent s state _
  | equals => exact gate_sent s state _
  | and => exact gate_sent s state _
  | or => exact gate_sent s state _
  | xor => exact gate_sent s state _
  | greater => exact gate_sent s state _
  -- the others branch on what they read, and send in no branch
  | random =>
    change (random s state).sent = none
    unfold random
    dsimp only
    split <;> rfl
  | not =>
    change (Reaction.not s state).sent = none
    unfold Reaction.not
    dsimp only
    split <;> rfl
  | regEx =>
    change (matching s state).sent = none
    unfold matching
    dsimp only
    split <;> rfl
  | oscillator =>
    change (oscillator s state).sent = none
    unfold oscillator
    dsimp only
    split <;> rfl
  | _ => rfl

end Reaction

namespace Component

theorem act_sent (m : Moment) (c : Component) : (c.act m).sent = (c.react m).2.sent := by
  unfold act
  dsimp only
  split <;> rfl

/-- Components of this type can send. -/
def transmits : ComponentType → Bool
  | .known .wifi => true
  | _ => false

theorem react_sent (m : Moment) {c : Component} (h : transmits c.type = false) :
    (c.react m).2.sent = none := by
  obtain ⟨id, type, settings, value, inputs, outputs, state⟩ := c
  cases type with
  | foreign name => rfl
  | known k =>
    refine Reaction.ofKind_sent _ ?_ state
    rintro rfl
    cases h

theorem turn_sent (m : Moment) (inputs : Except Fault Pins) {c : Component}
    (h : transmits c.type = false) : (c.turn m inputs).sent = none := by
  cases inputs with
  | error fault => rfl
  | ok pins =>
    rcases turn_ok m pins c with ⟨fault, -, refused⟩ | ⟨-, acts⟩
    · rw [refused]
    · rw [acts, act_sent]
      exact react_sent m h

end Component

namespace Engine

variable {e : Engine} {c c' : Circuit}

/-- No more than one component can send. -/
def OneSender (c : Circuit) : Prop :=
  c.components.countP (fun x => Component.transmits x.2.type) ≤ 1

/-- Types do not change, so what can send stays the same. -/
theorem OneSender.samePlan (one : OneSender c) (plan : c.SamePlan c') : OneSender c' := by
  have count (d : Circuit) : d.components.countP (fun x => Component.transmits x.2.type) =
      d.roster.countP fun r => Component.transmits r.2.2 := by
    rw [Circuit.roster, List.countP_map]
    rfl
  unfold OneSender at one ⊢
  rw [count, plan.roster, ← count]
  exact one

/-- A single sender contradicts nobody. -/
theorem OneSender.unanimous (one : OneSender c) (e : Engine) : e.Unanimous c := by
  intro winners _ x hx y hy channel v w sent sent'
  have sender {z : Value × Component} {u : Value} (hz : z ∈ c.components)
      (h : (e.turnOf c winners z.2).sends? channel = some u) :
      z ∈ c.components.filter fun x => Component.transmits x.2.type := by
    refine List.mem_filter.2 ⟨hz, ?_⟩
    by_contra other
    have silent : (e.turnOf c winners z.2).sent = none :=
      Component.turn_sent _ _ (Bool.eq_false_iff.2 other)
    rw [(Part.sends?_eq_some_iff.1 h).1] at silent
    cases silent
  -- whoever sends is the only member of the list of those who can
  unfold OneSender at one
  rw [List.countP_eq_length_filter] at one
  obtain ⟨only, single⟩ := List.length_eq_one_iff.1
    (le_antisymm one (List.length_pos_of_mem (sender hx sent)))
  have first := sender hx sent
  have second := sender hy sent'
  rw [single, List.mem_singleton] at first second
  rw [first, ← second, sent'] at sent
  exact (Option.some.inj sent).symm

/-- Circuits in which only one component can send run alike in any order. -/
theorem run_of_one_sender (indexed : c.Indexed) (one : OneSender c) (same : c.Rearranged c')
    (e : Engine) (n : Nat) :
    (e.run c' n).fault.isSome = (e.run c n).fault.isSome ∧
      ((e.run c n).fault = none → (e.run c n).circuit.Rearranged (e.run c' n).circuit ∧
        (e.run c n).engine.InTune (e.run c' n).engine) := by
  obtain ⟨together, alike⟩ := run_inTune indexed same e n fun k _ =>
    (one.samePlan (run_samePlan e c k)).unanimous _
  exact ⟨together, fun done => (alike done).2⟩

/-! ## §6 Pairs of Constants and Transmitters -/

def emitter (id : String) (n : Int) (outputs : Pins) : Component :=
  ⟨.text id, .known .constant, [], .int n, [], outputs, ()⟩

/-- A transmitter on the first channel. -/
def transmitter (id : String) (value : Value) (inputs outputs : Pins) : Component :=
  ⟨.text id, .known .wifi, [(.text "channel", .int 1)], value, inputs, outputs, ()⟩

/-- Two constants and two transmitters, wired in pairs. The transmitters stand in either order. -/
def inPairs (swapped : Bool) (a b w x : Component) : Circuit :=
  ⟨(if swapped then [a, b, x, w] else [a, b, w, x]).map fun y => (y.id, y),
    [⟨.text "W1", .text "A", .text "VALUE_OUT", .text "W", .text "SIGNAL_IN"⟩,
      ⟨.text "W2", .text "B", .text "VALUE_OUT", .text "X", .text "SIGNAL_IN"⟩],
    .object [], .int 2⟩

theorem mem_inPairs {swapped : Bool} {a b w x : Component} {y : Value × Component}
    (h : y ∈ (inPairs swapped a b w x).components) :
    y = (a.id, a) ∨ y = (b.id, b) ∨ y = (w.id, w) ∨ y = (x.id, x) := by
  cases swapped with
  | false => simpa [inPairs] using h
  | true =>
    have members : y = (a.id, a) ∨ y = (b.id, b) ∨ y = (x.id, x) ∨ y = (w.id, w) := by
      simpa [inPairs] using h
    exact members.imp_right (Or.imp_right Or.symm)

/-- The pairs when they have been created. -/
def pairs (swapped : Bool) (m n : Int) : Circuit :=
  inPairs swapped (emitter "A" m []) (emitter "B" n []) (transmitter "W" .null [] [])
    (transmitter "X" .null [] [])

/-- The pairs once the constants emit and the transmitters have heard nothing, with what they
receive. -/
def pairsHearing (swapped : Bool) (m n : Int) (toW toX : Value) : Circuit :=
  inPairs swapped (emitter "A" m [("VALUE_OUT", .int m)]) (emitter "B" n [("VALUE_OUT", .int n)])
    (transmitter "W" .absent [("SIGNAL_IN", toW), ("SET_CHANNEL", .absent)]
      [("SIGNAL_OUT", .absent)])
    (transmitter "X" .absent [("SIGNAL_IN", toX), ("SET_CHANNEL", .absent)]
      [("SIGNAL_OUT", .absent)])

/-- The engine after it has run the pairs. -/
def engineOf (c : Circuit) (ticks : Nat) (elapsed : Float) (heard : Channels) : Engine :=
  ⟨.standard, 100.0, ticks, elapsed, c.components.map fun x => (x.1, x.2.outputs), ⟨[], heard⟩, []⟩

/-- In the first tick the constants emit. -/
theorem tick_pairs (swapped : Bool) (m n : Int) :
    let c := pairsHearing swapped m n .absent .absent
    standardStart.tick (pairs swapped m n) =
      { engine := engineOf c 1 (0.0 + 100.0) [], circuit := c } := by
  cases swapped <;> rfl

/-- In the second one the transmitters send, and the one that acts last is heard. -/
theorem tick_pairs_again (swapped : Bool) (m n : Int) (elapsed : Float) :
    let c := pairsHearing swapped m n (.int m) (.int n)
    (engineOf (pairsHearing swapped m n .absent .absent) 1 elapsed []).tick
        (pairsHearing swapped m n .absent .absent) =
      { engine := engineOf c 2 (elapsed + 100.0) [(1, .int (if swapped then m else n))],
        circuit := c } := by
  cases swapped <;> rfl

theorem run_pairs_once (swapped : Bool) (m n : Int) :
    standardStart.run (pairs swapped m n) 1 =
      { engine := engineOf (pairsHearing swapped m n .absent .absent) 1 (0.0 + 100.0) []
        circuit := pairsHearing swapped m n .absent .absent } := by
  rw [run_of_no_fault (by rw [tick_pairs]), tick_pairs]
  rfl

theorem run_pairs (swapped : Bool) (m n : Int) :
    ∃ elapsed, standardStart.run (pairs swapped m n) 2 =
      { engine := engineOf (pairsHearing swapped m n (.int m) (.int n)) 2 elapsed
          [(1, .int (if swapped then m else n))]
        circuit := pairsHearing swapped m n (.int m) (.int n) } := by
  refine ⟨0.0 + 100.0 + 100.0, ?_⟩
  rw [run_of_no_fault (by rw [tick_pairs]), tick_pairs]
  dsimp only
  rw [run_of_no_fault (by rw [tick_pairs_again]), tick_pairs_again]
  rfl

theorem pairs_indexed (swapped : Bool) (m n : Int) : (pairs swapped m n).Indexed := by
  have keys (texts : List String) (h : texts.Nodup) :
      (texts.map Value.text).Pairwise fun a b => a.sameScalar b = false := by
    refine List.pairwise_map.2 (h.imp fun {a b} differ => ?_)
    exact beq_eq_false_iff_ne.2 differ
  refine ⟨?_, ?_⟩
  · cases swapped <;> simp [pairs, inPairs, emitter, transmitter]
  · rw [Table.distinct_iff_keys]
    cases swapped with
    | false => exact keys ["A", "B", "W", "X"] (by decide)
    | true => exact keys ["A", "B", "X", "W"] (by decide)

theorem pairs_rearranged (m n : Int) : (pairs false m n).Rearranged (pairs true m n) :=
  ⟨((List.Perm.swap _ _ []).cons _).cons _, rfl⟩

/-- Whoever sends the same as everybody contradicts nobody. -/
theorem unanimous_of_sent {v : Value}
    (h : ∀ winners, Delivery.winners c.wires = .ok winners → ∀ x ∈ c.components,
      ∀ sent, (e.turnOf c winners x.2).sent = some sent → sent.2 = v) : e.Unanimous c := by
  intro winners hw x hx y hy channel u w sent sent'
  have hu := h winners hw x hx _ (Part.sends?_eq_some_iff.1 sent).1
  have hv := h winners hw y hy _ (Part.sends?_eq_some_iff.1 sent').1
  exact hu.trans hv.symm

/-! ## §7 Order -/

/-- **Order**: two circuits with the same components and the same wires, the components created in
different orders, show the same after any number of ticks: every component is the same in both, its
outputs, its value and its state included. This takes that no two components send different signals
on one channel in the same tick. -/
theorem run_rearranged (indexed : c.Indexed) (same : c.Rearranged c') (e : Engine) (n : Nat)
    (unanimous : ∀ k < n, (e.run c k).engine.Unanimous (e.run c k).circuit) :
    (e.run c' n).fault.isSome = (e.run c n).fault.isSome ∧
      ((e.run c n).fault = none → ∀ key,
        (e.run c' n).circuit.components.find? key = (e.run c n).circuit.components.find? key) := by
  obtain ⟨together, alike⟩ := run_inTune indexed same e n unanimous
  refine ⟨together, fun done key => ?_⟩
  obtain ⟨indexed', rearranged, -⟩ := alike done
  exact Table.find?_perm indexed'.distinct rearranged.components key

/-- Two transmitters that send the same signal. -/
theorem run_rearranged_with_two_senders :
    (pairs false 5 5).Indexed ∧ (pairs false 5 5).Rearranged (pairs true 5 5) ∧
      (standardStart.run (pairs false 5 5) 3).fault = none ∧
      ∀ key, (standardStart.run (pairs true 5 5) 3).circuit.components.find? key =
        (standardStart.run (pairs false 5 5) 3).circuit.components.find? key := by
  obtain ⟨elapsed, second⟩ := run_pairs false 5 5
  have done : (standardStart.run (pairs false 5 5) 3).fault = none := by
    rw [(run_succ (e := standardStart) (c := pairs false 5 5) (k := 2) (by rw [second])).2.2, second]
    rfl
  have unanimous : ∀ k < 3, (standardStart.run (pairs false 5 5) k).engine.Unanimous
      (standardStart.run (pairs false 5 5) k).circuit := by
    intro k hk
    -- nothing is sent in the first tick, and the same signal twice in the other ones
    refine unanimous_of_sent (v := .int 5) fun winners hw x hx sent sends => ?_
    obtain rfl | rfl | rfl : k = 0 ∨ k = 1 ∨ k = 2 := by omega
    · cases hw
      rcases mem_inPairs hx with rfl | rfl | rfl | rfl <;> cases sends
    · rw [run_pairs_once] at hw hx sends
      cases hw
      rcases mem_inPairs hx with rfl | rfl | rfl | rfl <;> cases sends <;> rfl
    · rw [second] at hw hx sends
      cases hw
      rcases mem_inPairs hx with rfl | rfl | rfl | rfl <;> cases sends <;> rfl
  exact ⟨pairs_indexed _ _ _, pairs_rearranged _ _, done,
    (run_rearranged (pairs_indexed _ _ _) (pairs_rearranged _ _) standardStart 3 unanimous).2 done⟩

/-- Without the hypothesis the order shows: of the signals 1 and 2, sent on one channel in the same
tick, the transmitters emit the one or the other. -/
theorem run_depends_on_order :
    let shown (swapped : Bool) := ((standardStart.run (pairs swapped 1 2) 3).circuit.components.find?
      (.text "W")).map Component.outputs
    (pairs false 1 2).Indexed ∧ (pairs false 1 2).Rearranged (pairs true 1 2) ∧
      shown false = some [("SIGNAL_OUT", .int 2)] ∧ shown true = some [("SIGNAL_OUT", .int 1)] := by
  intro shown
  have third (swapped : Bool) :
      shown swapped = some [("SIGNAL_OUT", .int (if swapped then 1 else 2))] := by
    obtain ⟨elapsed, second⟩ := run_pairs swapped 1 2
    have circuit := (run_succ (e := standardStart) (c := pairs swapped 1 2) (k := 2)
      (by rw [second])).1
    dsimp only [shown]
    rw [circuit, second]
    cases swapped <;> rfl
  exact ⟨pairs_indexed _ _ _, pairs_rearranged _ _, third false, third true⟩

end Engine

end TickCircuit

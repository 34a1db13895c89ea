import TickCircuit.Proofs.Engine.Isolation
import TickCircuit.Proofs.Engine.Order

/-!
# Attaching to a Circuit

A circuit can be watched: components are attached to it, with wires that lead from its outputs to them.
Influence could flow back in three ways, by a wire into one of its pins, by a broadcast, and by the
wires at the outputs of its output selectors, which look at the circuit themselves. An attachment
(`Circuit.Attached`) has none of these.

One way back is left. A wire may lead to a pin of the circuit from an id that is not in use. It carries
nothing, until a component with this id is attached (`attached_fills_gap`). If no such wire is waiting
for an attached component (`Circuit.Complete`), the circuit runs as if nothing were attached
(`run_attached`).

The proof runs both circuits side by side. The engines stay `InStep` but for what the attached components
publish (`Engine.Beside`), and under this condition all turns are the same (`turnOf_attached`).
-/

namespace TickCircuit

/-! ## §1 Attachments -/

/-- The second table has the entries of the first, in the same order, and others among them. None of the
others can send. -/
inductive Amid : Table Component → Table Component → Prop where
  | nil : Amid [] []
  | own (x : Value × Component) {t t' : Table Component} (rest : Amid t t') :
      Amid (x :: t) (x :: t')
  | added {x : Value × Component} (silent : Component.transmits x.2.type = false)
      {t t' : Table Component} (rest : Amid t t') : Amid t (x :: t')

namespace Amid

variable {t t' : Table Component}

theorem sublist (h : Amid t t') : t.Sublist t' := by
  induction h with
  | nil => exact .slnil
  | own x _ ih => exact ih.cons_cons x
  | added _ _ ih => exact ih.cons _

/-- The entries of the first table are found in the second. -/
theorem find? (h : Amid t t') (distinct : t'.Distinct) {key : Value} {x : Component}
    (found : t.find? key = some x) : t'.find? key = some x := by
  rw [Table.find?_eq_some_iff (distinct.sublist h.sublist)] at found
  rw [Table.find?_eq_some_iff distinct]
  obtain ⟨k, member, same⟩ := found
  exact ⟨k, h.sublist.subset member, same⟩

theorem contains (h : Amid t t') (distinct : t'.Distinct) {key : Value}
    (inUse : t.contains key = true) : t'.contains key = true := by
  obtain ⟨x, found⟩ := Option.isSome_iff_exists.1 inUse
  exact Option.isSome_iff_exists.2 ⟨x, h.find? distinct found⟩

/-- Components that are replaced alike stay amid the others, as long as all keep their types. -/
theorem map (h : Amid t t') {f g : Component → Component} (same : ∀ x ∈ t, f x.2 = g x.2)
    (types : ∀ x ∈ t', (g x.2).type = x.2.type) :
    Amid (t.map fun x => (x.1, f x.2)) (t'.map fun x => (x.1, g x.2)) := by
  induction h with
  | nil => exact .nil
  | own x _ ih =>
    obtain ⟨here, others⟩ := List.forall_mem_cons.1 same
    rw [List.map_cons, List.map_cons, here]
    exact .own _ (ih others (List.forall_mem_cons.1 types).2)
  | @added x silent _ _ _ ih =>
    obtain ⟨type, types⟩ := List.forall_mem_cons.1 types
    exact .added (by rw [type]; exact silent) (ih same types)

end Amid

namespace Circuit

variable {a b : Circuit}

/-- The wires of the second circuit are those of the first and, behind them, wires that end at a
component that is attached and start at no output selector of the first circuit. -/
structure Attached (a b : Circuit) : Prop where
  components : Amid a.components b.components
  wires : ∃ more, b.wires = a.wires ++ more ∧ ∀ w ∈ more,
    (b.components.contains w.target = true ∧ a.components.contains w.target = false) ∧
      ∀ x ∈ a.components, x.2.type = .known .outputSelector → w.source.same x.2.id = false

/-- No wire that leads to a component of the first circuit starts at one that only the second has. -/
def Complete (a b : Circuit) : Prop :=
  ∀ w ∈ a.wires, a.components.contains w.target = true → b.components.contains w.source = true →
    a.components.contains w.source = true

end Circuit

/-! ## §2 What a Component Can Tell -/

namespace Component

variable {m : Moment} {wires : List Wire}

/-- Only selectors look at the wires: the ones at their inputs, the others at their outputs. -/
theorem ofKind_congr_wires {id : Value}
    (into : ∀ pin, Circuit.isInputConnected wires id pin = Circuit.isInputConnected m.wires id pin)
    (value : Value) (settings : Record) (inputs : Pins) (k : Kind) (state : k.shape.State)
    (out : k = .outputSelector → ∀ pin,
      Circuit.isOutputConnected wires id pin = Circuit.isOutputConnected m.wires id pin) :
    Reaction.ofKind ⟨id, settings, inputs, value, { m with wires }⟩ k state =
      Reaction.ofKind ⟨id, settings, inputs, value, m⟩ k state := by
  cases k with
  | inputSelector =>
    unfold Reaction.ofKind Reaction.inputSelector
    dsimp only
    simp only [into]
    rfl
  | outputSelector =>
    unfold Reaction.ofKind Reaction.outputSelector
    dsimp only
    simp only [out rfl]
    rfl
  | _ => rfl

/-- A component reacts alike among wires that are the same to it. -/
theorem react_congr_wires (x : Component)
    (into : ∀ pin, Circuit.isInputConnected wires x.id pin = Circuit.isInputConnected m.wires x.id pin)
    (out : x.type = .known .outputSelector → ∀ pin,
      Circuit.isOutputConnected wires x.id pin = Circuit.isOutputConnected m.wires x.id pin) :
    x.react { m with wires } = x.react m := by
  obtain ⟨id, type, settings, value, inputs, outputs, state⟩ := x
  cases type with
  | foreign name => rfl
  | known k =>
    unfold Component.react
    dsimp only
    rw [ofKind_congr_wires into value settings inputs k state fun selector =>
      out (congrArg ComponentType.known selector)]

theorem turn_congr_wires (x : Component)
    (into : ∀ pin, Circuit.isInputConnected wires x.id pin = Circuit.isInputConnected m.wires x.id pin)
    (out : x.type = .known .outputSelector → ∀ pin,
      Circuit.isOutputConnected wires x.id pin = Circuit.isOutputConnected m.wires x.id pin)
    (inputs : Except Fault Pins) : x.turn { m with wires } inputs = x.turn m inputs := by
  cases inputs with
  | error fault => rfl
  | ok pins =>
    -- the wires matter only when the component acts, and then it has its id and its type
    rcases turn_ok m pins x with ⟨fault, refused, h⟩ | ⟨accepted, h⟩
    · rcases turn_ok { m with wires } pins x with ⟨fault', refused', h'⟩ | ⟨accepted', -⟩
      · rw [refused] at refused'
        cases refused'
        rw [h, h']
      · rw [refused] at accepted'
        cases accepted'
    · rcases turn_ok { m with wires } pins x with ⟨fault', refused', -⟩ | ⟨-, h'⟩
      · rw [accepted] at refused'
        cases refused'
      · rw [h, h']
        unfold act
        rw [react_congr_wires]
        · exact into
        · exact out

end Component

/-! ## §3 What Is Delivered -/

namespace Delivery

/-- The step in which the wires that count are found. -/
def countFirst (found : List Wire) (w : Wire) : Except Fault (List Wire) := do
  let _ ← w.target.asKey
  let _ ← w.targetPin.asKey
  return if found.any (·.feeds w.target w.targetPin) then found else found ++ [w]

theorem winners_eq_foldlM (wires : List Wire) : winners wires = wires.foldlM countFirst [] := rfl

theorem countFirst_eq_ok_iff {found found' : List Wire} {w : Wire} :
    countFirst found w = .ok found' ↔
      (w.target.isKey = true ∧ w.targetPin.isKey = true) ∧ found' = keepFirst found w := by
  unfold countFirst
  constructor
  · intro h
    obtain ⟨_, target, h⟩ := Outcome.bind_eq_ok.1 h
    obtain ⟨_, pin, h⟩ := Outcome.bind_eq_ok.1 h
    cases h
    exact ⟨⟨(Value.isKey_of_asKey target).1, (Value.isKey_of_asKey pin).1⟩, rfl⟩
  · rintro ⟨⟨target, pin⟩, rfl⟩
    rw [Value.asKey_of_isKey target, Value.asKey_of_isKey pin]
    rfl

/-- The wires that count are found when all wires end at keys. -/
theorem winners_eq_ok_iff {wires found : List Wire} :
    winners wires = .ok found ↔
      (∀ w ∈ wires, w.target.isKey = true ∧ w.targetPin.isKey = true) ∧
        found = wires.foldl keepFirst [] := by
  rw [winners_eq_foldlM]
  generalize ([] : List Wire) = start
  induction wires generalizing start with
  | nil =>
    show Except.ok start = Except.ok found ↔ _
    rw [Except.ok.injEq, eq_comm]
    exact ⟨fun h => ⟨by simp, h⟩, fun h => h.2⟩
  | cons w rest ih =>
    rw [List.foldlM_cons, Outcome.bind_eq_ok, List.forall_mem_cons, List.foldl_cons]
    simp only [countFirst_eq_ok_iff, ih]
    constructor
    · rintro ⟨_, ⟨key, rfl⟩, keys, same⟩
      exact ⟨⟨key, keys⟩, same⟩
    · rintro ⟨⟨key, keys⟩, same⟩
      exact ⟨_, ⟨key, rfl⟩, keys, same⟩

theorem winner?_eq_some {winners : List Wire} {id pin : Value} {w : Wire}
    (h : winner? winners id pin = .ok (some w)) : w ∈ winners ∧ w.feeds id pin = true := by
  obtain ⟨_, -, h⟩ := Outcome.bind_eq_ok.1 h
  obtain ⟨_, -, h⟩ := Outcome.bind_eq_ok.1 h
  have found := Except.ok.inj h
  exact ⟨List.mem_of_find?_eq_some found, List.find?_some (p := fun v : Wire => v.feeds id pin) found⟩

/-- Further wires are only put behind those that have been found. -/
theorem exists_append_of_keepFirst (found more : List Wire) :
    ∃ extra, more.foldl keepFirst found = found ++ extra ∧ extra ⊆ more := by
  induction more generalizing found with
  | nil => exact ⟨[], (List.append_nil found).symm, List.Subset.refl _⟩
  | cons w rest ih =>
    rw [List.foldl_cons]
    obtain ⟨extra, same, among⟩ := ih (keepFirst found w)
    rw [same, keepFirst]
    split
    · exact ⟨extra, rfl, List.subset_cons_of_subset w among⟩
    · refine ⟨w :: extra, by rw [List.append_assoc]; rfl, ?_⟩
      exact List.cons_subset_cons w among

end Delivery

namespace Circuit

variable {a b : Circuit}

/-- A wire that feeds a component ends at an id that is in use. -/
theorem Indexed.contains_of_feeds {c : Circuit} (indexed : c.Indexed) {x : Value × Component}
    (hx : x ∈ c.components) {w : Wire} (key : w.target.isKey = true) {pin : Value}
    (feeds : w.feeds x.2.id pin = true) : c.components.contains w.target = true := by
  have same : w.target.same x.2.id = true := (Bool.and_eq_true _ _ ▸ feeds).1
  rw [Value.same_eq_sameScalar key, Value.sameScalar_comm] at same
  refine Table.contains_iff.2 ⟨x, hx, ?_⟩
  rw [Value.sameScalar_congr_key? (indexed.ids x hx), same]

namespace Attached

theorem contains (h : a.Attached b) (indexed : b.Indexed) {id : Value}
    (inUse : a.components.contains id = true) : b.components.contains id = true :=
  h.components.contains indexed.distinct inUse

theorem indexed (h : a.Attached b) (indexed : b.Indexed) : a.Indexed :=
  ⟨fun x hx => indexed.ids x (h.components.sublist.subset hx),
    indexed.distinct.sublist h.components.sublist⟩

/-- The wires that count for the components of the first circuit are its own. -/
theorem winners (h : a.Attached b) {found' : List Wire}
    (counted : Delivery.winners b.wires = .ok found') :
    ∃ found extra, Delivery.winners a.wires = .ok found ∧ found' = found ++ extra ∧
      (∀ w ∈ found, w ∈ a.wires ∧ w.target.isKey = true) ∧
      ∀ w ∈ extra, w.target.isKey = true ∧ a.components.contains w.target = false := by
  obtain ⟨more, wires, attached⟩ := h.wires
  obtain ⟨keys, rfl⟩ := Delivery.winners_eq_ok_iff.1 counted
  rw [wires] at keys
  obtain ⟨own, others⟩ := List.forall_mem_append.1 keys
  obtain ⟨extra, same, among⟩ :=
    Delivery.exists_append_of_keepFirst (a.wires.foldl Delivery.keepFirst []) more
  obtain ⟨found, split, subset⟩ := Delivery.exists_append_of_keepFirst [] a.wires
  refine ⟨a.wires.foldl Delivery.keepFirst [], extra, Delivery.winners_eq_ok_iff.2 ⟨own, rfl⟩, ?_,
    fun w hw => ?_, fun w hw => ?_⟩
  · rw [wires, List.foldl_append, same]
  · rw [split, List.nil_append] at hw
    exact ⟨subset hw, (own w (subset hw)).1⟩
  · exact ⟨(others w (among hw)).1, (attached w (among hw)).1.2⟩

/-- At the inputs of the first circuit there are no more wires than its own. -/
theorem isInputConnected (h : a.Attached b) (indexed : b.Indexed) {found' : List Wire}
    (counted : Delivery.winners b.wires = .ok found') {x : Value × Component}
    (hx : x ∈ a.components) (pin : Value) :
    Circuit.isInputConnected b.wires x.2.id pin = Circuit.isInputConnected a.wires x.2.id pin := by
  obtain ⟨more, wires, attached⟩ := h.wires
  have none : more.any (·.feeds x.2.id pin) = false := by
    refine List.any_eq_false.2 fun w hw feeds => ?_
    have key := ((Delivery.winners_eq_ok_iff.1 counted).1 w
      (wires ▸ List.mem_append_right a.wires hw)).1
    have inUse := (h.indexed indexed).contains_of_feeds hx key feeds
    rw [(attached w hw).1.2] at inUse
    cases inUse
  rw [Circuit.isInputConnected, Circuit.isInputConnected, wires, List.any_append, none,
    Bool.or_false]

/-- Nor are there at the outputs of its output selectors. -/
theorem isOutputConnected (h : a.Attached b) {x : Value × Component} (hx : x ∈ a.components)
    (selector : x.2.type = .known .outputSelector) (pin : Value) :
    Circuit.isOutputConnected b.wires x.2.id pin = Circuit.isOutputConnected a.wires x.2.id pin := by
  obtain ⟨more, wires, attached⟩ := h.wires
  have none : more.any (·.leaves x.2.id pin) = false := by
    refine List.any_eq_false.2 fun w hw leaves => ?_
    rw [Wire.leaves, (attached w hw).2 x hx selector] at leaves
    cases leaves
  rw [Circuit.isOutputConnected, Circuit.isOutputConnected, wires, List.any_append, none,
    Bool.or_false]

end Attached

end Circuit

/-! ## §4 One Tick -/

namespace Engine

variable {e e' : Engine} {a b : Circuit}

/-- Engines at the same point of a run of a circuit and of one that is attached to it: what the
components of the first have published is the same, and so is everything but that. -/
structure Beside (e e' : Engine) (a : Circuit) : Prop where
  settings : e'.settings = e.settings
  interval : e'.interval = e.interval
  ticks : e'.ticks = e.ticks
  elapsed : e'.elapsed = e.elapsed
  broadcast : e'.broadcast = e.broadcast
  published : ∀ id, a.components.contains id = true → e'.published.find? id = e.published.find? id

theorem Beside.refl (e : Engine) (a : Circuit) : e.Beside e a :=
  ⟨rfl, rfl, rfl, rfl, rfl, fun _ _ => rfl⟩

/-- A pin of the first circuit is fed by none of the wires that count elsewhere only. -/
theorem winner?_attached (indexed : a.Indexed) {found extra : List Wire}
    (others : ∀ w ∈ extra, w.target.isKey = true ∧ a.components.contains w.target = false)
    {x : Value × Component} (hx : x ∈ a.components) (pin : Value) :
    Delivery.winner? (found ++ extra) x.2.id pin = Delivery.winner? found x.2.id pin := by
  have none : extra.find? (·.feeds x.2.id pin) = none := by
    refine List.find?_eq_none.2 fun w hw feeds => ?_
    have inUse := indexed.contains_of_feeds hx (others w hw).1 feeds
    rw [(others w hw).2] at inUse
    cases inUse
  rw [Delivery.winner?, Delivery.winner?, List.find?_append, none, Option.or_none]

/-- The same signal is delivered to a pin of the first circuit. -/
theorem signal_attached (attached : a.Attached b) (indexed : b.Indexed) (complete : a.Complete b)
    (beside : e.Beside e' a) {found extra : List Wire}
    (own : ∀ w ∈ found, w ∈ a.wires ∧ w.target.isKey = true)
    (others : ∀ w ∈ extra, w.target.isKey = true ∧ a.components.contains w.target = false)
    {x : Value × Component} (hx : x ∈ a.components) (pin : Value) :
    Delivery.signal b.components e'.published (found ++ extra) x.2.id pin =
      Delivery.signal a.components e.published found x.2.id pin := by
  have indexed' := attached.indexed indexed
  unfold Delivery.signal
  rw [winner?_attached indexed' others hx]
  cases counted : Delivery.winner? found x.2.id pin with
  | error fault => rfl
  | ok first =>
    cases first with
    | none => rfl
    | some w =>
      obtain ⟨member, feeds⟩ := Delivery.winner?_eq_some counted
      have target := indexed'.contains_of_feeds hx (own w member).2 feeds
      simp only [bind, Except.bind]
      cases key : w.source.asKey with
      | error fault => rfl
      | ok source =>
        obtain ⟨-, rfl⟩ := Value.isKey_of_asKey key
        -- the source is in use in both circuits, for the same component, or in neither
        have both : b.components.contains w.source = a.components.contains w.source := by
          rw [Bool.eq_iff_iff]
          exact ⟨complete w (own w member).1 target, attached.contains indexed⟩
        dsimp only
        rw [both]
        split
        · next inUse =>
          rw [Published.get?, Published.get?, key]
          simp only [bind, Except.bind, beside.published w.source inUse]
        · rfl

/-- **Turn**: a component of the first circuit has the same turn in both. -/
theorem turnOf_attached (attached : a.Attached b) (indexed : b.Indexed) (complete : a.Complete b)
    (beside : e.Beside e' a) {found' : List Wire}
    (counted : Delivery.winners b.wires = .ok found') :
    ∃ found, Delivery.winners a.wires = .ok found ∧
      ∀ x ∈ a.components, e'.turnOf b found' x.2 = e.turnOf a found x.2 := by
  obtain ⟨found, extra, counted', rfl, own, others⟩ := attached.winners counted
  refine ⟨found, counted', fun x hx => ?_⟩
  have moment : e'.advanced.moment b = { e.advanced.moment a with wires := b.wires } := by
    simp only [moment, advanced, beside.settings, beside.interval, beside.ticks, beside.elapsed,
      beside.broadcast]
  have inputs : Delivery.inputs b.components e'.published (found ++ extra) x.2 =
      Delivery.inputs a.components e.published found x.2 := by
    unfold Delivery.inputs
    simp only [signal_attached attached indexed complete beside own others hx]
  unfold turnOf
  rw [inputs, moment]
  exact Component.turn_congr_wires x.2 (attached.isInputConnected indexed counted hx)
    (attached.isOutputConnected hx) _

/-- What is sent in a tick is sent by the components of the first circuit. -/
theorem broadcast_attached {t t' : Table Component} (amid : Amid t t') {turn turn' : Component → Part}
    (same : ∀ x ∈ t, turn' x.2 = turn x.2)
    (silent : ∀ x ∈ t', Component.transmits x.2.type = false → (turn' x.2).sent = none)
    {s s' : Sweep} (parts : s.parts = t.map fun x => (x.1, turn x.2))
    (parts' : s'.parts = t'.map fun x => (x.1, turn' x.2)) (b : Broadcast) :
    s'.broadcast b = s.broadcast b := by
  rw [Sweep.broadcast_eq_foldl, Sweep.broadcast_eq_foldl, parts, parts', List.map_map, List.map_map]
  clear parts parts'
  induction amid generalizing b with
  | nil => rfl
  | own x _ ih =>
    obtain ⟨here, others⟩ := List.forall_mem_cons.1 same
    obtain ⟨-, silent⟩ := List.forall_mem_cons.1 silent
    rw [List.map_cons, List.map_cons, List.foldl_cons, List.foldl_cons, ih others silent]
    simp only [Function.comp, here]
  | @added x mute _ _ _ ih =>
    obtain ⟨first, silent⟩ := List.forall_mem_cons.1 silent
    rw [List.map_cons, List.foldl_cons, ih same silent, Function.comp, Part.addTo, first mute]

/-- A tick takes no id into use and sets none free. -/
theorem tick_contains (e : Engine) (c : Circuit) (id : Value) :
    (e.tick c).circuit.components.contains id = c.components.contains id := by
  rw [← Circuit.contains_roster, (tick_samePlan e c).roster, Circuit.contains_roster]

/-- What is complete stays so. -/
theorem tick_complete (complete : a.Complete b) (e e' : Engine) :
    (e.tick a).circuit.Complete (e'.tick b).circuit := by
  intro w hw
  rw [tick_wires] at hw
  rw [tick_contains, tick_contains, tick_contains]
  exact complete w hw

section Ticks

variable {found found' : List Wire} (counted : Delivery.winners a.wires = .ok found)
  (counted' : Delivery.winners b.wires = .ok found')
  (turns : ∀ x ∈ a.components, e'.turnOf b found' x.2 = e.turnOf a found x.2)
  (through : (e.tick a).fault = none) (done : (e'.tick b).fault = none)

include counted counted' turns through done

/-- What is attached stays attached where the turns are the same. -/
theorem tick_attached (attached : a.Attached b) :
    (e.tick a).circuit.Attached (e'.tick b).circuit := by
  constructor
  · rw [tick_components counted through, tick_components counted' done]
    refine attached.components.map (f := fun x => (e.turnOf a found x).component)
      (g := fun x => (e'.turnOf b found' x).component) (fun x hx => ?_) fun x _ => ?_
    · rw [turns x hx]
    · exact congrArg Fixture.type (Component.turn_fixture _ _ x.2)
  · obtain ⟨more, wires, attaches⟩ := attached.wires
    refine ⟨more, by rw [tick_wires, tick_wires, wires], fun w hw => ?_⟩
    obtain ⟨ends, starts⟩ := attaches w hw
    refine ⟨by rw [tick_contains, tick_contains]; exact ends, fun y hy selector => ?_⟩
    -- the selector has had the same id and the same type before the tick
    rw [tick_components counted through] at hy
    obtain ⟨x, hx, rfl⟩ := List.mem_map.1 hy
    have fixture : (e.turnOf a found x.2).component.fixture = x.2.fixture :=
      Component.turn_fixture _ _ x.2
    have id : (e.turnOf a found x.2).component.id = x.2.id := congrArg Fixture.id fixture
    have type : (e.turnOf a found x.2).component.type = x.2.type := congrArg Fixture.type fixture
    show w.source.same (e.turnOf a found x.2).component.id = false
    rw [id]
    exact starts x hx (type.symm.trans selector)

/-- The engines stay side by side. -/
theorem tick_beside (attached : a.Attached b) (indexed : b.Indexed) (beside : e.Beside e' a) :
    (e.tick a).engine.Beside (e'.tick b).engine (e.tick a).circuit := by
  obtain ⟨reported, engine⟩ := tick_engine counted through
  obtain ⟨reported', engine'⟩ := tick_engine counted' done
  have parts := sweep_parts_of_no_fault (tick_fault counted ▸ through)
  have parts' := sweep_parts_of_no_fault (tick_fault counted' ▸ done)
  have components := (tick_attached counted counted' turns through done attached).components
  have indexed' := tick_indexed (e := e') indexed
  -- what is sent and what is published is read off the turns, and these are the same on both sides
  exact {
    settings := by rw [engine, engine']; exact beside.settings
    interval := by rw [engine, engine']; exact beside.interval
    ticks := by rw [engine, engine']; exact congrArg (· + 1) beside.ticks
    elapsed := by
      rw [engine, engine']
      dsimp only [advanced]
      rw [beside.elapsed, beside.interval]
    broadcast := by
      rw [engine, engine']
      dsimp only
      rw [broadcast_attached attached.components turns
        (fun x _ mute => Component.turn_sent _ _ mute) parts parts', beside.broadcast]
    published := by
      intro id there
      rw [tick_find?_published indexed.ids done,
        tick_find?_published (attached.indexed indexed).ids through]
      obtain ⟨x, shown⟩ := Option.isSome_iff_exists.1 there
      rw [shown, components.find? indexed'.distinct shown] }

end Ticks

/-! ## §5 Runs -/

/-- **Run**: the two circuits stay side by side. -/
theorem run_beside (attached : a.Attached b) (indexed : b.Indexed) (complete : a.Complete b)
    (e : Engine) (n : Nat) (done : (e.run b n).fault = none) :
    (e.run a n).fault = none ∧ (e.run b n).circuit.Indexed ∧
      (e.run a n).circuit.Attached (e.run b n).circuit ∧
        (e.run a n).circuit.Complete (e.run b n).circuit ∧
          (e.run a n).engine.Beside (e.run b n).engine (e.run a n).circuit := by
  induction n with
  | zero => exact ⟨rfl, indexed, attached, complete, .refl e a⟩
  | succ n ih =>
    cases ended : (e.run b n).fault with
    | some fault =>
      rw [run_succ_of_fault (by rw [ended]; rfl), ended] at done
      cases done
    | none =>
      obtain ⟨going, indexed', attached', complete', beside⟩ := ih ended
      obtain ⟨circuit, engine, fault⟩ := run_succ going
      obtain ⟨circuit', engine', fault'⟩ := run_succ ended
      rw [fault'] at done
      rw [fault, circuit, circuit', engine, engine']
      obtain ⟨found', counted'⟩ := winners_of_tick done
      obtain ⟨found, counted, turns⟩ := turnOf_attached attached' indexed' complete' beside counted'
      -- the components of the first circuit have the same turns in both, so they do not fail alone
      have through : ((e.run a n).engine.tick (e.run a n).circuit).fault = none := by
        rw [tick_fault counted, sweep_fault_eq_none_iff]
        intro x hx
        rw [← turns x hx]
        exact turnOf_fault counted' done (attached'.components.sublist.subset hx)
      exact ⟨through, tick_indexed indexed',
        tick_attached counted counted' turns through done attached', tick_complete complete' _ _,
        tick_beside counted counted' turns through done attached' indexed' beside⟩

/-- **Attachment**: whatever is attached to a circuit, without components that transmit, after any number
of ticks its components are what they are without the attachment: their inputs, outputs, states and
values are the same. This takes that no wire of the circuit leads from the id of an attached component
into the circuit. -/
theorem run_attached (attached : a.Attached b) (indexed : b.Indexed) (complete : a.Complete b)
    (e : Engine) (n : Nat) (done : (e.run b n).fault = none) :
    (e.run a n).fault = none ∧ ∀ key x, (e.run a n).circuit.components.find? key = some x →
      (e.run b n).circuit.components.find? key = some x := by
  obtain ⟨through, indexed', attached', -, -⟩ := run_beside attached indexed complete e n done
  exact ⟨through, fun key x found => attached'.components.find? indexed'.distinct found⟩

/-- A component that shows its input. -/
def watcher : Component := ⟨.text "Show", .known .display, [], .null, [], [], ()⟩

/-- The circuit around one wire, with a watcher behind the magnitude. -/
def watched (components : Table Component) : Circuit :=
  { aroundWire (components ++ [(.text "Show", watcher)]) with
    wires := (aroundWire components).wires ++
      [⟨.text "W2", .text "Abs1", .text "SIGNAL_OUT", .text "Show", .text "SIGNAL_IN"⟩] }

theorem amid_append_watcher (t : Table Component) : Amid t (t ++ [(.text "Show", watcher)]) := by
  induction t with
  | nil => exact .added rfl .nil
  | cons x rest ih => exact .own x ih

/-- A magnitude that is fed by a constant does not notice that it is watched. -/
theorem run_attached_to_watcher :
    let components := [(.text "In1", constantSource), (.text "Abs1", magnitude)]
    let a := aroundWire components
    let b := watched components
    a.Attached b ∧ b.Indexed ∧ a.Complete b ∧ (standardStart.run b 2).fault = none ∧
      (standardStart.run a 2).fault = none ∧
      ∀ key x, (standardStart.run a 2).circuit.components.find? key = some x →
        (standardStart.run b 2).circuit.components.find? key = some x := by
  intro components a b
  have attached : a.Attached b := by
    have wires : b.wires = a.wires ++
      [⟨.text "W2", .text "Abs1", .text "SIGNAL_OUT", .text "Show", .text "SIGNAL_IN"⟩] := rfl
    refine ⟨amid_append_watcher components, _, wires, fun w hw => ?_⟩
    rw [List.mem_singleton.1 hw]
    exact ⟨⟨rfl, rfl⟩, by simp [a, components, aroundWire, constantSource, magnitude]⟩
  have indexed : b.Indexed := by
    refine ⟨by simp [b, watched, aroundWire, components, constantSource, magnitude, watcher], ?_⟩
    simp [b, watched, aroundWire, components, Table.Distinct, Value.sameScalar]
  have complete : a.Complete b := by
    intro w hw _ _
    rw [List.mem_singleton.1 hw]
    rfl
  have done : (standardStart.run b 2).fault = none := rfl
  obtain ⟨through, same⟩ := run_attached attached indexed complete standardStart 2 done
  exact ⟨attached, indexed, complete, done, through, same⟩

/-- A magnitude with a wire from an id that is not in use. -/
def gap : Circuit := aroundWire [(.text "Abs1", magnitude)]

/-- The same with a constant under this id. -/
def filledGap : Circuit := aroundWire [(.text "Abs1", magnitude), (.text "In1", constantSource)]

/-- A wire from an id that is not in use carries something when a component with this id is attached: the
magnitude receives nothing alone, and -3 with the constant. -/
theorem attached_fills_gap :
    gap.Attached filledGap ∧ filledGap.Indexed ∧
      (standardStart.run gap 2).fault = none ∧ (standardStart.run filledGap 2).fault = none ∧
      ((standardStart.run gap 2).circuit.components.find? (.text "Abs1")).map Component.inputs =
        some [("SIGNAL_IN", .absent)] ∧
      ((standardStart.run filledGap 2).circuit.components.find? (.text "Abs1")).map
        Component.inputs = some [("SIGNAL_IN", .int (-3))] := by
  have attached : gap.Attached filledGap := ⟨.own _ (.added rfl .nil), [], rfl, by simp⟩
  have indexed : filledGap.Indexed := by
    refine ⟨by simp [filledGap, aroundWire, constantSource, magnitude], ?_⟩
    simp [filledGap, aroundWire, Table.Distinct, Value.sameScalar]
  exact ⟨attached, indexed, rfl, rfl, rfl, rfl⟩

end Engine

end TickCircuit

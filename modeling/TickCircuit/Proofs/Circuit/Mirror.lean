import TickCircuit.Proofs.Circuit.Edits

/-!
# Mirrors of Circuits

Someone who sees the events of a circuit can keep a mirror of it: the ids of its components and of its
wires. The mirror is strict. It takes in no id that it holds and gives up none that it does not hold, so a
doubled or a missing event leaves it without a next state.

The events of one edit, whether it succeeds or not, lead from the mirror of the circuit before it to the
mirror of the circuit after it (`Edit.mirrored`).
-/

namespace TickCircuit

/-- The ids of components and wires, in the order in which they came. -/
structure Mirror where
  components : List Value
  wires : List Value

namespace Mirror

/-! ## §1 Following Events -/

/-- The ids with one more, unless they hold it. -/
def enter (ids : List Value) (id : Value) : Option (List Value) :=
  if ids.any (·.same id) then none else some (ids ++ [id])

/-- The ids without one of them. -/
def leave (ids : List Value) (id : Value) : Option (List Value) :=
  if ids.any (·.same id) then some (ids.eraseP (·.same id)) else none

/-- The mirror after an event. Events that are not about the structure of a circuit change nothing. -/
def follow (m : Mirror) : Event → Option Mirror
  | .componentAdded id => return { m with components := ← enter m.components id }
  | .componentRemoved id => return { m with components := ← leave m.components id }
  | .wireAdded id => return { m with wires := ← enter m.wires id }
  | .wireRemoved id => return { m with wires := ← leave m.wires id }
  | .circuitCleared => some ⟨[], []⟩
  | _ => some m

/-- The mirror after some events. -/
def followAll (m : Mirror) (events : List Event) : Option Mirror := events.foldlM follow m

@[simp] theorem followAll_nil (m : Mirror) : m.followAll [] = some m := rfl

@[simp] theorem followAll_cons (m : Mirror) (event : Event) (events : List Event) :
    m.followAll (event :: events) = (m.follow event).bind (·.followAll events) := rfl

theorem followAll_append (m : Mirror) (events more : List Event) :
    m.followAll (events ++ more) = (m.followAll events).bind (·.followAll more) :=
  List.foldlM_append

/-- The mirror of a circuit. -/
def of (c : Circuit) : Mirror := ⟨c.components.keys, c.wires.map (·.id)⟩

variable {c c' : Circuit}

/-- Only the plan of a circuit is mirrored. -/
theorem of_samePlan (plan : c.SamePlan c') : of c' = of c := by
  have keys (d : Circuit) : d.components.keys = d.roster.map Prod.fst := by
    rw [Circuit.roster, List.map_map]
    rfl
  rw [of, of, keys, keys, plan.roster, plan.wires]

/-! ## §2 One Id -/

theorem enter_of_free {ids : List Value} {id : Value} (free : ∀ other ∈ ids, other.same id = false) :
    enter ids id = some (ids ++ [id]) := by
  rw [enter, if_neg]
  simpa using free

/-- An id leaves from where it is. -/
theorem leave_between {front rest : List Value} {id : Value}
    (before : ∀ other ∈ front, other.same id = false) (here : id.same id = true) :
    leave (front ++ id :: rest) id = some (front ++ rest) := by
  have held : (front ++ id :: rest).any (·.same id) = true := by simp [here]
  rw [leave, if_pos held, List.eraseP_append_right]
  · simp [here]
  · simpa using before

/-! ## §3 Components -/

/-- The keys of a circuit are compared as keys. -/
theorem same_of_mem_keys (h : c.Integral) {key : Value} (member : key ∈ c.components.keys)
    (id : Value) : key.same id = key.sameScalar id := by
  obtain ⟨x, hx, rfl⟩ := List.mem_map.1 member
  exact Value.same_eq_sameScalar (h.keyed _ (List.mem_map_of_mem hx)).2 id

/-- A component that is put under a free id enters the mirror. -/
theorem follow_componentAdded (h : c.Integral) {id : Value} {x : Component}
    (free : c.components.contains id = false) (counters : Value) :
    (of c).follow (.componentAdded id) =
      some (of { c with components := c.components.insert id x, counters := counters }) := by
  have entered : enter c.components.keys id = some (c.components.keys ++ [id]) := by
    refine enter_of_free fun key member => ?_
    rw [same_of_mem_keys h member]
    obtain ⟨x, hx, rfl⟩ := List.mem_map.1 member
    exact Table.contains_eq_false_iff.1 free x hx
  simp only [of, follow, entered, Table.insert_of_not_contains x free]
  simp [Table.keys]

theorem keys_erase {t : Table Component} {id : Value}
    (keyed : ∀ key ∈ t.keys, key.same id = key.sameScalar id) :
    (t.erase id).keys = t.keys.eraseP (·.same id) := by
  induction t with
  | nil => rfl
  | cons x rest ih =>
    obtain ⟨first, others⟩ := List.forall_mem_cons.1 keyed
    show Table.keys (Table.erase (x :: rest) id) = (x.1 :: Table.keys rest).eraseP (·.same id)
    rw [Table.erase, List.eraseP_cons, first]
    cases x.1.sameScalar id with
    | true => rfl
    | false => exact congrArg (x.1 :: ·) (ih others)

/-- A component that is taken away leaves the mirror. -/
theorem follow_componentRemoved (h : c.Integral) {id : Value}
    (inUse : c.components.contains id = true) (wires : List Value) :
    follow ⟨c.components.keys, wires⟩ (.componentRemoved id) =
      some ⟨(c.components.erase id).keys, wires⟩ := by
  have keyed (key : Value) (member : key ∈ c.components.keys) := same_of_mem_keys h member id
  have held : c.components.keys.any (·.same id) = true := by
    obtain ⟨x, hx, same⟩ := Table.contains_iff.1 inUse
    refine List.any_eq_true.2 ⟨x.1, List.mem_map_of_mem hx, ?_⟩
    rw [keyed x.1 (List.mem_map_of_mem hx), same]
  rw [follow, leave, if_pos held, keys_erase keyed]
  rfl

/-! ## §4 Wires -/

/-- A wire with an id that no wire has enters the mirror. -/
theorem follow_wireAdded (h : c.Integral) {w : Wire} (free : ∀ v ∈ c.wires, v.id ≠ w.id)
    (count : Value) :
    (of c).follow (.wireAdded w.id) =
      some (of { c with wires := c.wires ++ [w], wireCounter := count }) := by
  have entered : enter (c.wires.map (·.id)) w.id = some (c.wires.map (·.id) ++ [w.id]) := by
    refine enter_of_free fun other member => ?_
    obtain ⟨v, hv, rfl⟩ := List.mem_map.1 member
    exact Bool.eq_false_iff.2 fun same => free v hv ((h.named v hv).same_iff.1 same)
  simp only [of, follow, entered]
  simp

/-- The wires that are taken away leave the mirror one by one. The induction is on the wires that are
still to be looked at; those that have been kept stand in front of them. -/
theorem followAll_wiresRemoved (goes : Wire → Bool) {wires : List Wire}
    (named : ∀ w ∈ wires, w.id.IsText) (apart : (wires.map (·.id)).Nodup) {front : List Value}
    (before : ∀ w ∈ wires, ∀ other ∈ front, other.same w.id = false) (components : List Value) :
    followAll ⟨components, front ++ wires.map (·.id)⟩
        (((wires.filter goes).map (·.id)).map .wireRemoved) =
      some ⟨components, front ++ (wires.filter (!goes ·)).map (·.id)⟩ := by
  induction wires generalizing front with
  | nil => rfl
  | cons w rest ih =>
    obtain ⟨text, named⟩ := List.forall_mem_cons.1 named
    obtain ⟨here, before⟩ := List.forall_mem_cons.1 before
    rw [List.map_cons, List.nodup_cons] at apart
    have itself : w.id.same w.id = true := text.same_iff.2 rfl
    cases going : goes w with
    | true =>
      have left : leave (front ++ w.id :: rest.map (·.id)) w.id = some (front ++ rest.map (·.id)) :=
        leave_between here itself
      have followed : follow ⟨components, front ++ w.id :: rest.map (·.id)⟩ (.wireRemoved w.id) =
          some ⟨components, front ++ rest.map (·.id)⟩ := by rw [follow, left]; rfl
      rw [List.filter_cons_of_pos going, List.filter_cons_of_neg (by simp [going]), List.map_cons,
        List.map_cons, List.map_cons, followAll_cons, followed]
      exact ih named apart.2 before
    | false =>
      -- the wire is kept, so it stands in front of the others from now on
      have kept : ∀ v ∈ rest, ∀ other ∈ front ++ [w.id], other.same v.id = false := by
        intro v hv other member
        rcases List.mem_append.1 member with earlier | last
        · exact before v hv other earlier
        · rw [List.mem_singleton.1 last]
          refine Bool.eq_false_iff.2 fun same => apart.1 ?_
          rw [text.same_iff.1 same]
          exact List.mem_map_of_mem hv
      have later := ih named apart.2 kept
      simpa [List.filter_cons, going] using later

end Mirror

/-! ## §5 Edits -/

/-- The one event of removing a wire. -/
theorem Circuit.disconnect_events (c : Circuit) (id : Value) :
    (c.disconnect id).events = if c.wires.any (·.id.same id) then [.wireRemoved id] else [] := by
  unfold disconnect removeWire
  cases c.wires.any (·.id.same id) <;> rfl

/-- Removing a wire takes its id out of the mirror, if there is such a wire. -/
theorem Mirror.followAll_disconnect {c : Circuit} (id : Value) :
    (of c).followAll (c.disconnect id).events = some (of (c.disconnect id).circuit) := by
  have there : (c.wires.map (·.id)).any (·.same id) = c.wires.any (·.id.same id) := List.any_map
  have wires : (c.wires.eraseP (·.id.same id)).map (·.id) = (c.wires.map (·.id)).eraseP (·.same id) := by
    rw [List.eraseP_map]
    rfl
  rw [Circuit.disconnect_circuit, Circuit.disconnect_events]
  cases held : c.wires.any (·.id.same id) with
  | true =>
    have left : leave (c.wires.map (·.id)) id = some ((c.wires.map (·.id)).eraseP (·.same id)) := by
      rw [leave, there, if_pos held]
    rw [if_pos rfl, followAll_cons, of, follow, left, of, wires]
    rfl
  | false =>
    have none : c.wires.eraseP (·.id.same id) = c.wires :=
      List.eraseP_of_forall_not (by simpa using held)
    rw [if_neg Bool.false_ne_true, followAll_nil, none]

/-- When a component is removed, the wires leave first that touch it, and then the component. -/
theorem Mirror.followAll_removed {c : Circuit} (h : c.Integral) {id : Value}
    (inUse : c.components.contains id = true) :
    (of c).followAll
        (((c.wires.filter (·.touches id)).map (·.id)).map .wireRemoved ++ [.componentRemoved id]) =
      some (of { c with components := c.components.erase id, wires := c.wires.filter (!·.touches id) }) := by
  let others := (c.wires.filter (!·.touches id)).map (·.id)
  have wires : (Mirror.mk c.components.keys ([] ++ c.wires.map (·.id))).followAll
        (((c.wires.filter (·.touches id)).map (·.id)).map .wireRemoved) =
      some ⟨c.components.keys, [] ++ others⟩ :=
    followAll_wiresRemoved (·.touches id) h.named h.apart (by simp) c.components.keys
  rw [List.nil_append, List.nil_append] at wires
  have component : (Mirror.mk c.components.keys others).follow (.componentRemoved id) =
      some ⟨(c.components.erase id).keys, others⟩ := follow_componentRemoved h inUse others
  rw [followAll_append, of, wires, Option.bind_some, followAll_cons, component]
  rfl

/-- **Edits**: following the events of an edit leads from the mirror of a circuit to the mirror of the
circuit after the edit. -/
theorem Edit.mirrored {c : Circuit} (h : c.Integral) (edit : Edit) :
    (Mirror.of c).followAll (edit.apply c).events = some (Mirror.of (edit.apply c).circuit) := by
  -- the events of taking a wire away depend on whether there is one, which its ending does not say
  by_cases cuts : ∃ id, edit = .disconnect id
  · obtain ⟨id, rfl⟩ := cuts
    exact Mirror.followAll_disconnect id
  have ends := edit.ends c
  generalize edit.apply c = edited at ends ⊢
  have one {event : Event} {c' : Circuit} (followed : (Mirror.of c).follow event = some (Mirror.of c')) :
      (Mirror.of c).followAll [event] = some (Mirror.of c') := by
    rw [Mirror.followAll_cons, followed]
    rfl
  have replaced (replaces : edit.replaces = true) : some (Mirror.of c) = some (Mirror.of edited.circuit) := by
    rw [Mirror.of_samePlan (ends.samePlan replaces)]
  cases ends with
  | failed | ignored => rfl
  | unmade made =>
    obtain ⟨-, count, rfl⟩ := Circuit.nextComponentId_eq_ok made
    rfl
  | @numbered kind _ _ _ _ made =>
    obtain ⟨before, after, -, -, isMade, free⟩ := Circuit.nextComponentId_spec h.counted kind.name
    rw [isMade] at made
    cases made
    exact one (Mirror.follow_componentAdded h free _)
  | named key free => exact one (Mirror.follow_componentAdded h free _)
  | @removed id x found =>
    have inUse : c.components.contains id = true := by
      rw [Table.contains, (Circuit.find?_of_ok found).2]
      rfl
    exact Mirror.followAll_removed h inUse
  | unsettled | resettled | valued | pressed => exact replaced rfl
  | connected _ _ _ _ made =>
    obtain ⟨before, after, -, -, isMade, free⟩ := Circuit.nextWireId_spec h.counted h.named
    rw [isMade] at made
    cases made
    exact one (Mirror.follow_wireAdded h (w := ⟨_, _, _, _, _⟩) free _)
  | disconnected events => exact absurd ⟨_, rfl⟩ cuts
  | cleared => rfl

end TickCircuit

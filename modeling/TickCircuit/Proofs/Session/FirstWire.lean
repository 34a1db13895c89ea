import TickCircuit.Proofs.Engine.Delivery
import TickCircuit.Proofs.Session.Integrity

/-!
# The First Wire Wins

Of several wires into one input pin the one that was made first counts. A circuit does not keep the
times at which its wires were made; it keeps their order. What carries the rule through a session is
that the order of the wires is always the order in which they were made (`performAll_ordered`): wires
are put behind all others, and taking some away leaves the others in order.

When a wire was made is read off the session itself: it was missing after some number of calls, and
has been there ever since (`MadeAt`).
-/

namespace TickCircuit

namespace Session

variable {s : Session} {calls : List Call} {v w : Wire} {k : Nat}

/-! ## §1 When Wires Were Made -/

/-- The call after the first `k` calls has made the wire, and the wire is still there. -/
structure MadeAt (s : Session) (calls : List Call) (w : Wire) (k : Nat) : Prop where
  within : k < calls.length
  missing : w ∉ (s.performAll (calls.take k)).circuit.wires
  since : ∀ n, k < n → n ≤ calls.length → w ∈ (s.performAll (calls.take n)).circuit.wires

theorem MadeAt.unique {j : Nat} (hj : MadeAt s calls w j) (hk : MadeAt s calls w k) : j = k := by
  rcases Nat.lt_trichotomy j k with below | same | above
  · exact absurd (hj.since k below (Nat.le_of_lt hk.within)) hk.missing
  · exact same
  · exact absurd (hk.since j above (Nat.le_of_lt hj.within)) hj.missing

/-- A wire that is still there after one more call was made when it was made. -/
theorem MadeAt.extend {call : Call} (h : MadeAt s calls w k)
    (there : w ∈ (s.performAll (calls ++ [call])).circuit.wires) :
    MadeAt s (calls ++ [call]) w k where
  within := by
    rw [List.length_append, List.length_singleton]
    exact Nat.lt_succ_of_lt h.within
  missing := by
    rw [List.take_append_of_le_length (Nat.le_of_lt h.within)]
    exact h.missing
  since := by
    intro n above below
    rw [List.length_append, List.length_singleton] at below
    rcases Nat.lt_or_ge calls.length n with last | earlier
    · rw [List.take_of_length_le (by simpa using last)]
      exact there
    · rw [List.take_append_of_le_length earlier]
      exact h.since n above earlier

/-- A wire that one more call has brought was made by that call. -/
theorem MadeAt.last {call : Call} (missing : w ∉ (s.performAll calls).circuit.wires)
    (there : w ∈ (s.performAll (calls ++ [call])).circuit.wires) :
    MadeAt s (calls ++ [call]) w calls.length where
  within := by simp
  missing := by rwa [List.take_left]
  since := by
    intro n above _
    rw [List.take_of_length_le (by simpa using above)]
    exact there

/-- Both wires are there, and the first was made before the second. -/
def MadeBefore (s : Session) (calls : List Call) (v w : Wire) : Prop :=
  ∃ j k, MadeAt s calls v j ∧ MadeAt s calls w k ∧ j < k

theorem MadeBefore.extend {call : Call} (h : MadeBefore s calls v w)
    (hv : v ∈ (s.performAll (calls ++ [call])).circuit.wires)
    (hw : w ∈ (s.performAll (calls ++ [call])).circuit.wires) :
    MadeBefore s (calls ++ [call]) v w := by
  obtain ⟨j, k, hj, hk, below⟩ := h
  exact ⟨j, k, hj.extend hv, hk.extend hw, below⟩

theorem MadeBefore.irrefl : ¬ MadeBefore s calls w w := by
  rintro ⟨j, k, hj, hk, below⟩
  rw [hj.unique hk] at below
  exact Nat.lt_irrefl k below

theorem MadeBefore.asymm (h : MadeBefore s calls v w) : ¬ MadeBefore s calls w v := by
  obtain ⟨j, k, hj, hk, below⟩ := h
  rintro ⟨k', j', hk', hj', above⟩
  rw [hj.unique hj', hk.unique hk'] at below
  exact Nat.lt_asymm below above

/-! ## §2 The Order of the Wires -/

theorem behind_of_pairwise {R : Wire → Wire → Prop} {before behind : List Wire}
    (h : (before ++ w :: behind).Pairwise R) : ∀ v ∈ behind, R w v :=
  (List.pairwise_cons.1 (List.pairwise_append.1 h).2.1).1

/-- **Order**: the wires stand in the order in which they were made. -/
theorem performAll_ordered (engine : Engine) (observers : List Observer) (calls : List Call) :
    let s := start .empty engine observers
    (∀ w ∈ (s.performAll calls).circuit.wires, ∃ k, MadeAt s calls w k) ∧
      (s.performAll calls).circuit.wires.Pairwise (MadeBefore s calls) := by
  intro s
  -- from the last call backwards, for a further call adds a wire behind all others
  induction calls using List.reverseRecOn with
  | nil => exact ⟨fun w hw => absurd hw List.not_mem_nil, List.Pairwise.nil⟩
  | append_singleton calls call ih =>
    obtain ⟨made, ordered⟩ := ih
    have integral := performAll_integral (s := s) Circuit.integral_empty calls
    obtain ⟨_, change⟩ := perform_change integral call
    rw [← performAll_append_one] at change
    rcases change.wires_cases with fewer | ⟨w, new, more⟩
    · have still {v : Wire} (hv : v ∈ (s.performAll (calls ++ [call])).circuit.wires) :
          ∃ k, MadeAt s (calls ++ [call]) v k := by
        obtain ⟨k, hk⟩ := made v (fewer.subset hv)
        exact ⟨k, hk.extend hv⟩
      refine ⟨fun v hv => still hv, (ordered.sublist fewer).imp_of_mem fun hu hv before => ?_⟩
      exact before.extend hu hv
    · have member {v : Wire} : v ∈ (s.performAll (calls ++ [call])).circuit.wires ↔
          v ∈ (s.performAll calls).circuit.wires ∨ v = w := by
        rw [more, List.mem_append, List.mem_singleton]
      have last : MadeAt s (calls ++ [call]) w calls.length := .last new (member.2 (.inr rfl))
      refine ⟨?_, ?_⟩
      · intro v hv
        rcases member.1 hv with old | rfl
        · obtain ⟨k, hk⟩ := made v old
          exact ⟨k, hk.extend hv⟩
        · exact ⟨_, last⟩
      · rw [more, List.pairwise_append]
        refine ⟨ordered.imp_of_mem fun hu hv before => ?_, List.pairwise_singleton _ _, ?_⟩
        · exact before.extend (member.2 (.inl hu)) (member.2 (.inl hv))
        · intro v hv u hu
          rw [List.mem_singleton.1 hu]
          obtain ⟨k, hk⟩ := made v hv
          exact ⟨k, calls.length, hk.extend (member.2 (.inl hv)), last, hk.within⟩

/-! ## §3 The Rule -/

/-- What an input pin has to receive: nothing if no wire runs into it, and otherwise the signal that
the source of the wire that was made first has published. -/
inductive ByFirstMade (s : Session) (calls : List Call) (id pin : Value) : Value → Prop where
  | unwired (none : ∀ w ∈ (s.performAll calls).circuit.wires, w.feeds id pin = false) :
      ByFirstMade s calls id pin .absent
  | wired {w : Wire} (there : w ∈ (s.performAll calls).circuit.wires)
      (into : w.feeds id pin = true)
      (first : ∀ v ∈ (s.performAll calls).circuit.wires, v.feeds id pin = true → v ≠ w →
        MadeBefore s calls w v) :
      ByFirstMade s calls id pin
        ((s.performAll calls).engine.published.value w.source w.sourcePin).asSignal

/-- What the next tick hands to a component. -/
def due (s : Session) (x : Component) : Except Fault Pins :=
  Delivery.due s.circuit s.engine.published x

/-- Where the wires stand in the order in which they were made, the signal of the first wire into a
pin is the signal of the one that was made first. -/
theorem delivered_byFirstMade (integral : (s.performAll calls).circuit.Integral)
    (ordered : (s.performAll calls).circuit.wires.Pairwise (MadeBefore s calls)) (id : Value)
    (pin : String) :
    ByFirstMade s calls id (.text pin)
      ((s.performAll calls).circuit.delivered (s.performAll calls).engine.published id pin) := by
  unfold Circuit.delivered
  cases found : (s.performAll calls).circuit.wires.find? (·.feeds id (.text pin)) with
  | none =>
    refine .unwired fun w hw => ?_
    simpa using List.find?_eq_none.1 found w hw
  | some w =>
    obtain ⟨into, before, behind, split, unfed⟩ := List.find?_eq_some_iff_append.1 found
    have there := List.mem_of_find?_eq_some found
    obtain ⟨⟨x, source, -⟩, -⟩ := integral.ends there
    dsimp only
    rw [Table.contains, source, Option.isSome_some, if_pos rfl]
    refine .wired there into fun v hv into' differ => ?_
    rw [split] at hv ordered
    rcases List.mem_append.1 hv with earlier | later
    · have := unfed v earlier
      rw [into'] at this
      cases this
    -- all other wires into the pin stand behind the one that was found
    · exact behind_of_pairwise ordered v ((List.mem_cons.1 later).resolve_left differ)

/-- What is due to the components of an integral circuit is what is delivered. -/
theorem due_eq (integral : s.circuit.Integral) {e : Value × Component}
    (he : e ∈ s.circuit.components) :
    s.due e.2 = .ok (e.2.type.inputPins.map fun pin =>
      (pin, s.circuit.delivered s.engine.published e.2.id pin)) :=
  Delivery.due_eq_delivered integral.wires_keyed _ (integral.isKey_id he)

/-! ## §4 Edits of Wires that Do Not Count -/

/-- Without a wire that another one precedes, everything due stays due. -/
theorem due_disconnect (integral : s.circuit.Integral) {before behind : List Wire}
    (wires : s.circuit.wires = before ++ w :: behind)
    (fed : ∃ v ∈ before, v.feeds w.target w.targetPin = true) {e : Value × Component}
    (he : e ∈ s.circuit.components) :
    (s.perform (.edit (.disconnect w.id))).due e.2 = s.due e.2 := by
  obtain ⟨circuit, engine⟩ := perform_edit s (.disconnect w.id)
  have cut : (s.perform (.edit (.disconnect w.id))).circuit =
      { s.circuit with wires := before ++ behind } := by
    have there : w ∈ s.circuit.wires := wires ▸ List.mem_append_right before List.mem_cons_self
    have self : w.id.same w.id = true := (integral.named w there).same_iff.2 rfl
    -- the ids are different, so it is this wire that goes
    have others : ∀ v ∈ before, ¬ v.id.same w.id = true := by
      intro v hv
      have differ := integral.ids_differ
      rw [wires] at differ
      rw [(List.pairwise_append.1 differ).2.2 v hv w List.mem_cons_self]
      exact Bool.false_ne_true
    rw [circuit]
    change (s.circuit.disconnect w.id).circuit = _
    rw [Circuit.disconnect_circuit, wires, List.eraseP_append_right _ others,
      List.eraseP_cons_of_pos (p := fun v : Wire => v.id.same w.id) self]
  have keyed := integral.wires_keyed
  rw [wires] at keyed
  have keyedBefore : ∀ v ∈ before, v.Keyed := fun v hv => keyed v (List.mem_append_left _ hv)
  have kept : (before ++ behind).Sublist s.circuit.wires :=
    wires ▸ (List.sublist_cons_self w behind).append_left before
  rw [due, due, engine, cut]
  refine Delivery.due_congr integral.wires_keyed ?keyed (fun id => ?ids) ?first _
    (integral.isKey_id he)
  case keyed => exact fun v hv => integral.wires_keyed v (kept.subset hv)
  case ids => rfl
  case first =>
    intro id pin
    dsimp only
    rw [wires, Wire.find?_append_cons_of_fed keyedBefore
      (keyed w (List.mem_append_right before List.mem_cons_self)) fed]

/-- A further wire into a pin that is fed changes nothing that is due. -/
theorem due_connect (integral : s.circuit.Integral) {sourceId sourcePin targetId targetPin : Value}
    (fed : ∃ v ∈ s.circuit.wires, v.feeds targetId targetPin = true) {e : Value × Component}
    (he : e ∈ s.circuit.components) :
    (s.perform (.edit (.connect sourceId sourcePin targetId targetPin))).due e.2 = s.due e.2 := by
  obtain ⟨circuit, engine⟩ := perform_edit s (.connect sourceId sourcePin targetId targetPin)
  rw [due, due, engine, circuit]
  have ends := (Edit.connect sourceId sourcePin targetId targetPin).ends s.circuit
  generalize (Edit.connect sourceId sourcePin targetId targetPin).apply s.circuit = edited at ends ⊢
  cases ends with
  | failed | ignored => rfl
  | @connected _ _ _ _ id _ _ _ found out found' into made =>
    obtain ⟨count, rfl⟩ := Circuit.nextWireId_eq_ok made
    have keyed : Wire.Keyed ⟨id, sourceId, sourcePin, targetId, targetPin⟩ :=
      (Circuit.connects_of_found found out found' into).keyed
    refine Delivery.due_congr integral.wires_keyed ?keyed (fun id => ?ids) ?first _
      (integral.isKey_id he)
    case keyed =>
      exact List.forall_mem_append.2 ⟨integral.wires_keyed, List.forall_mem_singleton.2 keyed⟩
    case ids => rfl
    case first =>
      intro id pin
      dsimp only [Edited.done, Circuit.addWire]
      rw [Wire.find?_append_cons_of_fed integral.wires_keyed keyed fed, List.append_nil]

/-! ## §5 First Wires along Sessions -/

/-- **First wire wins**: after any sequence of calls on a session that starts with the empty circuit,
each declared input pin of each component is to receive what the wire made first carries; a tick hands
this to every component that has its turn, and all have it unless the tick ends in a fault. Taking
away a wire into a pin into which an earlier one runs, or adding a wire to a pin that has one, changes
nothing that any component is to receive. -/
theorem first_wire_wins (engine : Engine) (observers : List Observer) (calls : List Call) :
    let s := start .empty engine observers
    let now := s.performAll calls
    (∀ e ∈ now.circuit.components, ∃ pins, now.due e.2 = .ok pins ∧
        pins.map Prod.fst = e.2.type.inputPins ∧
        ∀ p ∈ pins, ByFirstMade s calls e.2.id (.text p.1) p.2) ∧
      (∀ i < now.engine.served now.circuit, ∃ x y, now.circuit.components[i]? = some x ∧
        (now.perform .step).circuit.components[i]? = some y ∧ y.1 = x.1 ∧
        now.due x.2 = .ok y.2.inputs) ∧
      ((now.engine.tick now.circuit).fault = none →
        now.engine.served now.circuit = now.circuit.components.length) ∧
      (∀ v ∈ now.circuit.wires, ∀ w ∈ now.circuit.wires, MadeBefore s calls v w →
        v.feeds w.target w.targetPin = true → ∀ e ∈ now.circuit.components,
          (now.perform (.edit (.disconnect w.id))).due e.2 = now.due e.2) ∧
      (∀ sourceId sourcePin targetId targetPin,
        (∃ v ∈ now.circuit.wires, v.feeds targetId targetPin = true) →
        ∀ e ∈ now.circuit.components,
          (now.perform (.edit (.connect sourceId sourcePin targetId targetPin))).due e.2 =
            now.due e.2) := by
  intro s now
  obtain ⟨-, ordered⟩ := performAll_ordered engine observers calls
  have integral : now.circuit.Integral := performAll_integral (s := s) Circuit.integral_empty calls
  refine ⟨?_, ?_, Engine.served_of_no_fault, ?_, ?_⟩
  · intro e he
    refine ⟨_, due_eq integral he, ?_, ?_⟩
    · rw [List.map_map]
      exact List.map_id _
    · intro p hp
      obtain ⟨pin, -, rfl⟩ := List.mem_map.1 hp
      exact delivered_byFirstMade integral ordered e.2.id pin
  · intro i hi
    obtain ⟨winners, hw, -⟩ := Delivery.find?_winners integral.wires_keyed
    obtain ⟨x, y, hx, hy, key, received⟩ := Engine.tick_inputs hw hi
    refine ⟨x, y, hx, by rw [perform_step, hy], key, ?_⟩
    have owed := due_eq integral (List.mem_of_getElem? hx)
    have handed : Delivery.inputs now.circuit.components now.engine.published winners x.2 =
        now.due x.2 := by
      rw [due, Delivery.due, hw]
      rfl
    rw [owed, received _ (handed.trans owed)]
  · intro v hv w hw before fed e he
    obtain ⟨front, behind, split⟩ := List.append_of_mem hw
    refine due_disconnect integral split ⟨v, ?_, fed⟩ he
    -- the earlier wire stands in front, for behind it wires were made later
    rw [split] at hv ordered
    rcases List.mem_append.1 hv with earlier | later
    · exact earlier
    · rcases List.mem_cons.1 later with rfl | later
      · exact absurd before MadeBefore.irrefl
      · exact absurd (behind_of_pairwise ordered v later) before.asymm
  · intro sourceId sourcePin targetId targetPin fed e he
    exact due_connect integral fed he

end Session

end TickCircuit

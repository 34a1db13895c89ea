import TickCircuit.Proofs.Circuit.Loading
import TickCircuit.Proofs.Circuit.Searches
import TickCircuit.Proofs.Session.Following

/-!
# Taking Wires Away by Their Ids

The first wire with an id is taken away, and the search stops there. So taking a wire away takes its id away
exactly when no other wire has the id (`disconnects_iff`).

A wire that is made gets an id that no wire has, and no edit changes the id of a wire, so the wires of a
circuit stay apart whatever is called (`performAll_wiresApart`). But wires that are loaded have the ids that
the document lists. The check of documents compares the ids of the components and not those of the wires, so
it depends on the document whether taking wires away works (`disconnecting_works_iff`).
-/

namespace TickCircuit

/-! ## §1 The First and All -/

/-- Taking away the first that there is takes away all that there are when there is one at most. -/
theorem eraseP_eq_filter_iff {α : Type*} {p : α → Bool} {xs : List α} :
    xs.eraseP p = xs.filter (!p ·) ↔ xs.countP p ≤ 1 := by
  induction xs with
  | nil => simp
  | cons x rest ih =>
    cases first : p x with
    | true =>
      rw [List.eraseP_cons_of_pos first, List.filter_cons_of_neg (by simp [first]),
        List.countP_cons_of_pos first]
      -- nothing more is taken away, so there must be nothing more
      have none : rest.filter (!p ·) = rest ↔ rest.countP p = 0 := by
        rw [List.filter_eq_self, List.countP_eq_zero]
        simp
      rw [eq_comm, none]
      omega
    | false =>
      rw [List.eraseP_cons_of_neg (by simp [first]), List.filter_cons_of_pos (by simp [first]),
        List.countP_cons_of_neg (by simp [first]), List.cons_inj_right, ih]

/-- There is one at most when there are no two. -/
theorem countP_le_one_iff_pairwise {α : Type*} {p : α → Bool} {xs : List α} :
    xs.countP p ≤ 1 ↔ xs.Pairwise fun x y => ¬ (p x = true ∧ p y = true) := by
  induction xs with
  | nil => simp
  | cons x rest ih =>
    rw [List.pairwise_cons, ← ih, List.countP_cons]
    cases first : p x with
    | true =>
      have none : (∀ y ∈ rest, ¬ (true = true ∧ p y = true)) ↔ rest.countP p = 0 := by
        rw [List.countP_eq_zero]
        simp
      rw [none, if_pos rfl]
      omega
    | false => simp

namespace Circuit

/-- No id is that of two wires. -/
def WiresApart (c : Circuit) : Prop := ∀ id : Value, c.wires.countP (·.id.same id) ≤ 1

variable {c c' : Circuit} {id : Value}

/-- Ids that can be keys are different from each other. -/
theorem wiresApart_iff_pairwise (keys : ∀ w ∈ c.wires, w.id.isKey = true) :
    c.WiresApart ↔ c.wires.Pairwise fun w x => w.id.same x.id = false := by
  have scalar {w : Wire} (hw : w ∈ c.wires) (id : Value) : w.id.same id = w.id.sameScalar id :=
    Value.same_eq_sameScalar (keys w hw) id
  unfold WiresApart
  simp only [countP_le_one_iff_pairwise, List.pairwise_iff_forall_sublist]
  constructor
  · intro apart w x both
    rw [Bool.eq_false_iff]
    intro same
    -- what is equal to something else is equal to itself, so the id of the later wire is that of both
    have self : x.id.same x.id = true := by
      rw [scalar (both.subset (by simp))] at same ⊢
      rw [← Value.sameScalar_congr_left same, same]
    exact apart x.id both ⟨same, self⟩
  · rintro different id w x both ⟨same, same'⟩
    have equal : w.id.same x.id = true := by
      rw [scalar (both.subset (by simp))] at same same' ⊢
      rw [Value.sameScalar_congr_left same, Value.sameScalar_comm, same']
    rw [different both] at equal
    cases equal

theorem WiresApart.sublist (apart : c.WiresApart) (left : c'.wires.Sublist c.wires) : c'.WiresApart :=
  fun id => left.countP_le.trans (apart id)

/-! ## §2 New Wires -/

/-- Counting on ends where it is free. -/
theorem CountsTo.isFree {isFree : Value → Bool} {count last : Value} (counts : CountsTo isFree count last) :
    isFree last = true := by
  induction counts with
  | here _ free => exact free
  | further _ _ _ ih => exact ih

/-- The id that is made for a wire is a text, and no wire has it. -/
theorem nextWireId_free (made : c.nextWireId = .ok (id, c')) :
    id.IsText ∧ c.wires.any (·.id.same id) = false := by
  obtain ⟨count, counts, rfl⟩ := nextWireId_ends made
  exact ⟨⟨_, rfl⟩, by simpa using counts.isFree⟩

theorem WiresApart.join (apart : c.WiresApart) {w : Wire} (isText : w.id.IsText)
    (free : c.wires.any (·.id.same w.id) = false) : (c.addWire w).WiresApart := by
  intro id
  rw [addWire, List.countP_append, List.countP_singleton]
  split_ifs with same
  · -- only the new wire has its id
    obtain rfl := isText.same_iff.1 same
    have others : c.wires.countP (·.id.same w.id) = 0 := List.countP_eq_zero.2 (by simpa using free)
    rw [others]
  · exact apart id

end Circuit

/-- **Step**: an edit gives no wire the id of another. -/
theorem Edit.wiresApart {c : Circuit} (apart : c.WiresApart) (edit : Edit) :
    (edit.apply c).circuit.WiresApart := by
  have ends := edit.ends c
  generalize edit.apply c = edited at ends ⊢
  -- most edits leave the wires as they are or take some away; one adds a wire, under an id that it makes
  cases ends with
  | failed | ignored | named | unsettled | resettled | valued | pressed => exact apart
  | unmade made | numbered made =>
    obtain ⟨-, count, rfl⟩ := Circuit.nextComponentId_eq_ok made
    exact apart
  | removed => exact apart.sublist List.filter_sublist
  | connected _ _ _ _ made =>
    obtain ⟨isText, free⟩ := Circuit.nextWireId_free made
    obtain ⟨count, rfl⟩ := Circuit.nextWireId_eq_ok made
    exact Circuit.WiresApart.join (c := { c with wireCounter := count }) apart isText free
  | disconnected => exact apart.sublist List.eraseP_sublist
  | cleared => exact fun _ => Nat.zero_le 1

/-- **Run**: neither does anything else that is done with an engine and the circuit. -/
theorem Bench.after_wiresApart {b : Bench} (apart : b.circuit.WiresApart) (deeds : List Deed) :
    (b.after deeds).circuit.WiresApart := by
  refine after_of_plan (fun plan apart => ?_) Edit.wiresApart apart deeds
  exact apart.sublist (by rw [plan.wires])

namespace Session

variable {s : Session} {id : Value}

theorem performAll_wiresApart (apart : s.circuit.WiresApart) (calls : List Call) :
    (s.performAll calls).circuit.WiresApart :=
  performAll_keeps (p := fun b => b.circuit.WiresApart) Bench.after_wiresApart apart calls

/-! ## §3 Taking Wires Away -/

/-- Taking the wire with an id away leaves the other wires in their order and no wire with the id, and
observers are told exactly when there was one. -/
structure Disconnects (s : Session) (id : Value) : Prop where
  circuit : (s.perform (.edit (.disconnect id))).circuit =
    { s.circuit with wires := s.circuit.wires.filter (!·.id.same id) }
  told : ∀ temper : Temper, temper.Tolerated →
    (s.performAs temper (.edit (.disconnect id))).trace.notices = s.trace.notices ++
      if s.circuit.wires.any (·.id.same id) then noticesOf s.observers (.wireRemoved id) else []

/-- What is taken away is the first wire with the id, so it must be the only one. -/
theorem disconnects_iff : s.Disconnects id ↔ s.circuit.wires.countP (·.id.same id) ≤ 1 := by
  have left : (s.perform (.edit (.disconnect id))).circuit =
      { s.circuit with wires := s.circuit.wires.eraseP (·.id.same id) } :=
    (perform_edit s (.disconnect id)).1.trans (s.circuit.disconnect_circuit id)
  rw [← eraseP_eq_filter_iff]
  constructor
  · intro disconnects
    exact congrArg Circuit.wires (left.symm.trans disconnects.circuit)
  · intro only
    refine ⟨by rw [left, only], fun temper tolerated => ?_⟩
    -- what is told does not depend on how many wires have the id, only on whether there is one
    have events : ((Edit.disconnect id).apply s.circuit).events = _ := s.circuit.disconnect_events id
    rw [(performAs_edit tolerated s (.disconnect id)).notices, events]
    split_ifs <;> simp

end Session

/-! ## §4 Loaded Wires -/

/-- What is listed for a wire is listed under an id. -/
def isListedUnder (id d : Value) : Bool :=
  match d.field "id" with
  | .ok own => own.same id
  | .error _ => false

/-- A document lists no two wires under one id. -/
def ListsWiresApart (v : Value) : Prop :=
  ∀ ws, v.field "wires" = .ok (.list ws) → ∀ id, ws.countP (isListedUnder id) ≤ 1

/-- Wires are loaded with the ids that they are listed under. -/
theorem Circuit.countP_of_wires {ds : List Value} {ws : List Wire}
    (read : List.Forall₂ (fun d w => Wire.ofDocument d = .ok w) ds ws) (id : Value) :
    ds.countP (isListedUnder id) = ws.countP (·.id.same id) := by
  induction read with
  | nil => rfl
  | @cons d w _ _ read _ ih =>
    have same : isListedUnder id d = w.id.same id := by
      rw [isListedUnder, (fields_of_wire read).1]
    rw [List.countP_cons, List.countP_cons, ih, same]

theorem Circuit.Reads.wiresApart_iff {v : Value} {c : Circuit} (reads : Reads v c) :
    c.WiresApart ↔ ListsWiresApart v := by
  obtain ⟨ws, wires, each⟩ := reads.wires
  constructor
  · intro apart ws' wires' id
    rw [wires] at wires'
    cases wires'
    rw [countP_of_wires each]
    exact apart id
  · intro apart id
    rw [← countP_of_wires each]
    exact apart ws wires id

/-- **Taking wires away**: whatever is called on a session with the circuit of an accepted document, no id is
that of two wires, and a wire is taken away by its id with nothing left of it and all others in their order, if
and only if the document lists no two wires under one id. -/
theorem disconnecting_works_iff {v : Value} {c : Circuit} (accepted : Validation.document v = .ok ())
    (read : Circuit.ofDocument v = .ok c) :
    ListsWiresApart v ↔ ∀ engine observers calls,
      let s := (Session.start c engine observers).performAll calls
      s.circuit.WiresApart ∧ ∀ id, s.Disconnects id := by
  have reads : Circuit.Reads v c := (Circuit.ofDocument_eq_ok_iff accepted).1 read
  rw [← reads.wiresApart_iff]
  constructor
  · intro apart engine observers calls s
    have apart' : s.circuit.WiresApart :=
      Session.performAll_wiresApart (s := .start c engine observers) apart calls
    exact ⟨apart', fun id => Session.disconnects_iff.2 (apart' id)⟩
  · intro works
    exact (works Engine.standardStart [] []).1

/-- A document of two wires between the same pins, listed under some ids. -/
def parallelWires (first second : Value) : Value :=
  let wire (id : Value) : Value := .object [(.text "id", id), (.text "from_id", .text "A"),
    (.text "from_pin", .text "VALUE_OUT"), (.text "to_id", .text "B"), (.text "to_pin", .text "SIGNAL_IN")]
  .object [
    (.text "components", .list [
      .object [(.text "id", .text "A"), (.text "type", .text "Constant")],
      .object [(.text "id", .text "B"), (.text "type", .text "Abs")]]),
    (.text "wires", .list [wire first, wire second])]

/-- Of two parallel wires under different ids each is taken away by its id. -/
theorem disconnecting_works_of_different_ids :
    let v := parallelWires (.text "W1") (.text "W2")
    Validation.document v = .ok () ∧ ListsWiresApart v ∧ ∃ c, Circuit.ofDocument v = .ok c ∧
      ∀ engine observers calls, let s := (Session.start c engine observers).performAll calls
        s.circuit.WiresApart ∧ ∀ id, s.Disconnects id := by
  have accepted : Validation.document (parallelWires (.text "W1") (.text "W2")) = .ok () := rfl
  obtain ⟨c, read⟩ : ∃ c, Circuit.ofDocument (parallelWires (.text "W1") (.text "W2")) = .ok c := ⟨_, rfl⟩
  have apart : ListsWiresApart (parallelWires (.text "W1") (.text "W2")) := by
    rintro ws ⟨⟩ id
    rw [countP_le_one_iff_pairwise, List.pairwise_pair]
    rintro ⟨first, second⟩
    -- an id that is equal to both texts would make them one text
    obtain rfl := (Value.IsText.same_iff ⟨"W1", rfl⟩).1 first
    cases second
  exact ⟨accepted, apart, c, read, (disconnecting_works_iff accepted read).1 apart⟩

/-- Of two wires under one id the second is left when the id is taken away. -/
theorem twin_wire_left :
    let v := parallelWires (.text "W1") (.text "W1")
    Validation.document v = .ok () ∧ ∃ c, Circuit.ofDocument v = .ok c ∧ ∀ engine observers,
      let s := Session.start c engine observers
      ¬ s.circuit.WiresApart ∧ ¬ s.Disconnects (.text "W1") ∧
        ((Edit.disconnect (.text "W1")).apply s.circuit).events = [.wireRemoved (.text "W1")] ∧
        (s.perform (.edit (.disconnect (.text "W1")))).circuit.wires.map (·.id) = [.text "W1"] := by
  refine ⟨rfl, _, rfl, fun engine observers => ?_⟩
  intro s
  have twice : s.circuit.wires.countP (·.id.same (.text "W1")) = 2 := rfl
  refine ⟨fun apart => ?_, mt Session.disconnects_iff.1 (by omega), rfl, ?_⟩
  · have one := apart (.text "W1")
    omega
  · rw [(Session.perform_edit s _).1]
    rfl

end TickCircuit

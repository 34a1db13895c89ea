import TickCircuit.Proofs.Circuit.Loading
import TickCircuit.Proofs.Session.Calls

/-!
# Circuits That Can Grow

A circuit is extensible when its counters can count and the ids of its wires can be compared. Then a
component of every kind can be added without settings and without an id (`Extensible.add`), and pins of
components that are there can be connected (`Extensible.connect`), each under a made id that is free.
Whatever is called on a session, its circuit stays extensible (`performAll_extensible`), so this goes on
without end.

Accepted documents that say nothing strange about their counters, the ids of their wires and the
connections of their selectors are loaded as such circuits (`accepted_stays_editable`). The check of
documents looks at none of the three, and each of them can keep a circuit from being loaded or extended
(`unchecked_fields_stop`).
-/

namespace TickCircuit

/-! ## §1 Counters That Count -/

/-- The value is a whole number, or a flag. -/
def Value.IsWhole (v : Value) : Prop := ∃ n : Int, v.number? = some (.int n)

namespace Circuit

/-- The circuit can make ids. -/
structure Extensible (c : Circuit) : Prop where
  types : ∃ es : Record, c.counters = .object es ∧
    ∀ (kind : Kind) (v : Value), Table.get? es kind.name = some v → v.IsWhole
  wireCounter : c.wireCounter.IsWhole
  wires : ∀ w ∈ c.wires, w.id.isKey = true

variable {c c' : Circuit}

theorem extensible_empty : empty.Extensible where
  types := ⟨[], rfl, fun _ _ found => nomatch found⟩
  wireCounter := ⟨0, rfl⟩
  wires := fun _ member => nomatch member

theorem Extensible.counterOf (h : c.Extensible) (kind : Kind) :
    ∃ count n, c.counterOf (.text kind.name) = .ok count ∧ count.number? = some (.int n) := by
  obtain ⟨es, counters, whole⟩ := h.types
  unfold Circuit.counterOf
  rw [counters]
  change ∃ count n, Except.ok ((Table.get? es kind.name).getD (.int 0)) = .ok count ∧ _
  cases found : Table.get? es kind.name with
  | none => exact ⟨.int 0, 0, rfl, rfl⟩
  | some v =>
    obtain ⟨n, isWhole⟩ := whole kind v found
    exact ⟨v, n, rfl, isWhole⟩

/-- Nothing but the counters and the wires matters. -/
theorem Extensible.congr (h : c.Extensible) (counters : c'.counters = c.counters)
    (wireCounter : c'.wireCounter = c.wireCounter) (wires : ∀ w ∈ c'.wires, w ∈ c.wires) :
    c'.Extensible where
  types := counters ▸ h.types
  wireCounter := wireCounter ▸ h.wireCounter
  wires := fun w hw => h.wires w (wires w hw)

/-- Counters can count after one of them has been set to a whole number. -/
theorem Extensible.setCounter (h : c.Extensible) (type : Value) (n : Int) :
    Extensible { c with counters := Circuit.setCounter c.counters type (.int n) } := by
  obtain ⟨es, counters, whole⟩ := h.types
  refine ⟨⟨es.insert type (.int n), ?_, fun kind v found => ?_⟩, h.wireCounter, h.wires⟩
  · change Circuit.setCounter c.counters type (.int n) = _
    rw [counters]
    rfl
  · rw [Table.get?, Table.find?_insert] at found
    split at found
    · cases found
      exact ⟨n, rfl⟩
    · exact whole kind v found

/-- An id can be made for a component of every kind. -/
theorem Extensible.nextComponentId (h : c.Extensible) (kind : Kind) :
    ∃ m : Int, c.nextComponentId (.text kind.name) = .ok (numbered kind.name m,
        { c with counters := Circuit.setCounter c.counters (.text kind.name) (.int m) }) ∧
      c.components.contains (numbered kind.name m) = false := by
  obtain ⟨count, n, counter, whole⟩ := h.counterOf kind
  obtain ⟨m, -, made, free⟩ := nextComponentId_whole counter whole
  exact ⟨m, made, free⟩

/-- An id can be made for a wire. -/
theorem Extensible.nextWireId (h : c.Extensible) :
    ∃ m : Int, c.nextWireId = .ok (numbered "W" m, { c with wireCounter := .int m }) ∧
      ∀ w ∈ c.wires, w.id ≠ numbered "W" m := by
  obtain ⟨n, whole⟩ := h.wireCounter
  obtain ⟨m, -, made, free⟩ := nextWireId_whole whole h.wires
  exact ⟨m, made, free⟩

theorem Extensible.clear (h : c.Extensible) : c.clear.Extensible := by
  obtain ⟨es, counters, -⟩ := h.types
  have clear : c.clear = empty := by
    rw [Circuit.clear, counters]
    rfl
  rw [clear]
  exact extensible_empty

end Circuit

/-! ## §2 What Is Done to an Extensible Circuit -/

/-- **Step**: every edit leaves an extensible circuit extensible. -/
theorem Edit.extensible {c : Circuit} (h : c.Extensible) (edit : Edit) :
    (edit.apply c).circuit.Extensible := by
  have ends := edit.ends c
  generalize edit.apply c = edited at ends ⊢
  -- only the counters that are made anew and the wires that are added have to be looked at
  cases ends with
  | failed | ignored => exact h
  | @unmade kind _ _ _ _ made =>
    obtain ⟨m, isMade, -⟩ := h.nextComponentId kind
    rw [isMade] at made
    cases made
    exact h.setCounter (.text kind.name) m
  | @numbered kind _ _ _ _ made =>
    obtain ⟨m, isMade, -⟩ := h.nextComponentId kind
    rw [isMade] at made
    cases made
    exact (h.setCounter (.text kind.name) m).congr rfl rfl fun _ member => member
  | named | unsettled | resettled | valued | pressed => exact h.congr rfl rfl fun _ member => member
  | removed => exact h.congr rfl rfl fun w hw => (List.mem_filter.1 hw).1
  | connected _ _ _ _ made =>
    obtain ⟨m, isMade, -⟩ := h.nextWireId
    rw [isMade] at made
    cases made
    exact {
      types := h.types
      wireCounter := ⟨m, rfl⟩
      wires := List.forall_mem_append.2 ⟨h.wires, List.forall_mem_singleton.2 rfl⟩ }
  | disconnected => exact h.congr rfl rfl fun w hw => List.mem_of_mem_eraseP hw
  | cleared => exact h.clear

/-- **Run**: so does everything that is done with an engine and the circuit. -/
theorem Bench.after_extensible {b : Bench} (h : b.circuit.Extensible) (deeds : List Deed) :
    (b.after deeds).circuit.Extensible := by
  refine after_of_plan (fun plan h => ?_) Edit.extensible h deeds
  exact h.congr plan.counters plan.wireCounter fun w hw => plan.wires ▸ hw

theorem Session.performAll_extensible {s : Session} (h : s.circuit.Extensible) (calls : List Call) :
    (s.performAll calls).circuit.Extensible :=
  performAll_keeps (p := fun b => b.circuit.Extensible) Bench.after_extensible h calls

/-! ## §3 Growing -/

/-- No input pin has the name of an output pin. -/
theorem ComponentType.inputPins_disjoint (t : ComponentType) :
    ∀ pin ∈ t.inputPins, pin ∉ t.outputPins := by
  cases t with
  | foreign name => exact fun _ isInput => nomatch isInput
  | known kind => cases kind <;> decide

/-- The default settings of a selector select channel zero. -/
theorem Kind.not_selectsInfinity_defaults (kind : Kind) (isSelector : kind.shape = .selector) :
    ¬ Record.SelectsInfinity kind.defaults := by
  have zero : kind.defaults.setting "selectedConnection" = .int 0 := by
    cases kind <;> first | rfl | cases isSelector
  rintro ⟨x, s, infinite, -⟩
  rw [zero] at infinite
  cases infinite

namespace Circuit

variable {c : Circuit}

/-- **Growth**: a component of every kind can be added. -/
theorem Extensible.add (h : c.Extensible) (kind : Kind) :
    ∃ id, (c.addComponent (.text kind.name) .null .null).result = .ok id ∧
      c.components.contains id = false := by
  obtain ⟨m, made, free⟩ := h.nextComponentId kind
  refine ⟨numbered kind.name m, ?_, free⟩
  have known : (ComponentType.ofValue (.text kind.name)).kind? = some kind :=
    ComponentType.kind?_ofValue.2 rfl
  -- without settings the defaults are kept, and every kind starts from these
  have takes : kind.Takes .null := ⟨[], rfl, kind.not_selectsInfinity_defaults⟩
  obtain ⟨x, created⟩ := (Component.ofSettings_ok_iff (numbered kind.name m) kind .null).2 takes
  unfold addComponent
  simp only [known, made]
  rw [place_eq _ rfl, created]
  rfl

/-- **Growth**: pins of components that are there can be connected. -/
theorem Extensible.connect (h : c.Extensible) {sourceId sourcePin targetId targetPin : Value}
    {source target : Component} (found : c.components.find? sourceId = some source)
    (out : source.type.hasOutputPin sourcePin = true)
    (found' : c.components.find? targetId = some target)
    (into : target.type.hasInputPin targetPin = true) :
    ∃ id, (c.connect sourceId sourcePin targetId targetPin).result = .ok id ∧
      ∀ w ∈ c.wires, w.id.same id = false := by
  have looked {id : Value} {x : Component} (found : c.components.find? id = some x) :
      c.find? id = .ok (some x) := by
    unfold Circuit.find?
    rw [Value.asKey_of_isKey (Table.isKey_of_find? found), ← found]
    rfl
  -- an id that names both ends names one component, and no pin is both an input and an output
  have different : (sourceId.same targetId && sourcePin.same targetPin) = false := by
    rw [Bool.eq_false_iff, ne_eq, Bool.and_eq_true]
    rintro ⟨sameId, samePin⟩
    rw [Value.same_eq_sameScalar (Table.isKey_of_find? found)] at sameId
    rw [Table.find?_congr sameId, found'] at found
    cases found
    obtain ⟨pin, rfl, isOutput⟩ := Validation.any_isText.1 out
    obtain rfl := (Value.IsText.same_iff ⟨pin, rfl⟩).1 samePin
    obtain ⟨_, ⟨⟩, isInput⟩ := Validation.any_isText.1 into
    exact source.type.inputPins_disjoint pin isInput isOutput
  obtain ⟨m, made, free⟩ := h.nextWireId
  refine ⟨numbered "W" m, ?_, fun w hw => ?_⟩
  · unfold Circuit.connect
    simp only [looked found, looked found', out, into, different, made]
    rfl
  · rw [Value.same_eq_sameScalar (h.wires w hw), Bool.eq_false_iff]
    intro same
    exact free w hw (Value.sameScalar_text.1 same)

/-! ## §4 Documents of Circuits That Can Grow -/

open Validation (DescribesComponent)

/-- Where no check looks, the document says nothing that keeps its circuit from being loaded or
extended. -/
structure Continuable (v : Value) : Prop where
  counters : ∃ es : Record, fieldOr v "counters" (.object []) = .object es ∧
    ∀ (kind : Kind) (w : Value), Table.get? es kind.name = some w → w.IsWhole
  wireCounter : (fieldOr v "wire_counter" (.int 0)).IsWhole
  wires : ∀ ws, v.field "wires" = .ok (.list ws) →
    ∀ d ∈ ws, ∀ id, d.field "id" = .ok id → id.isKey = true
  selectors : ∀ ds, v.field "components" = .ok (.list ds) →
    ∀ d ∈ ds, ∀ id kind, DescribesComponent d id kind → kind.shape = .selector →
      ¬ Record.SelectsInfinity (kind.defaults.merge (Component.settingsIn d))

/-- These are the accepted documents from which an extensible circuit is loaded. -/
theorem loads_extensible_iff {v : Value} (accepted : Validation.document v = .ok ()) :
    (∃ c, ofDocument v = .ok c ∧ c.Extensible) ↔ Continuable v := by
  constructor
  · rintro ⟨c, read, extensible⟩
    have reads : Reads v c := (ofDocument_eq_ok_iff accepted).1 read
    have counters := (countersOf_eq_ok_iff.1 reads.counters).1
    refine ⟨?_, reads.wireCounter ▸ extensible.wireCounter, ?_, ?_⟩
    · rw [counters]
      exact extensible.types
    · intro ws wires d hd id isId
      obtain ⟨ws', wires', each⟩ := reads.wires
      rw [wires] at wires'
      cases wires'
      obtain ⟨w, hw, read⟩ := Outcome.exists_of_mem each.flip hd
      rw [(fields_of_wire read).1] at isId
      cases isId
      exact extensible.wires w hw
    · intro ds components
      exact ((exists_ofDocument_iff accepted components).1 ⟨c, read⟩).2
  -- loading needs a table of counters and no selector that starts at an infinity
  · intro continuable
    obtain ⟨es, counters, whole⟩ := continuable.counters
    obtain ⟨ds, ws, components, wires, -⟩ := Validation.wellFormed_of_accepted accepted
    have counts : countersOf v = .ok (.object es) := countersOf_eq_ok_iff.2 ⟨counters, .inl rfl⟩
    obtain ⟨c, read⟩ := (exists_ofDocument_iff accepted components).2
      ⟨⟨_, counts⟩, continuable.selectors ds components⟩
    have reads : Reads v c := (ofDocument_eq_ok_iff accepted).1 read
    have isTable : c.counters = .object es := Except.ok.inj (reads.counters.symm.trans counts)
    refine ⟨c, read, ⟨es, isTable, whole⟩, reads.wireCounter ▸ continuable.wireCounter, ?_⟩
    intro w hw
    obtain ⟨ws, wires, each⟩ := reads.wires
    obtain ⟨d, hd, read⟩ := Outcome.exists_of_mem each hw
    exact continuable.wires ws wires d hd w.id (fields_of_wire read).1

/-- A document whose counters are behind the ids in it. -/
def overtakenDocument : Value := .object [
  (.text "components", .list [
    .object [(.text "id", .text "Not1"), (.text "type", .text "Not")],
    .object [(.text "id", .text "S"), (.text "type", .text "InputSelector"),
      (.text "settings", .object [(.text "selectedConnection", .text "x")])]]),
  (.text "wires", .list [
    .object [(.text "id", .int 7), (.text "from_id", .text "Not1"), (.text "from_pin", .text "SIGNAL_OUT"),
      (.text "to_id", .text "S"), (.text "to_pin", .text "SIGNAL_IN_0")]]),
  (.text "counters", .object [(.text "Not", .int (-1)), (.text "Nothing", .null)])]

end Circuit

end TickCircuit

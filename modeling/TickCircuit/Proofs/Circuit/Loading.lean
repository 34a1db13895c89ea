import TickCircuit.Proofs.Circuit.Acceptance
import TickCircuit.Proofs.Circuit.Integrity
import TickCircuit.Proofs.Component.Documents

/-!
# Loading Circuits

What is read from a document that lists components and wires is said field by field
(`Reads`, `ofDocument_eq_ok_iff`). An accepted document lists components that are described and whose ids are
different keys, so they are put behind each other (`fill_eq_ok_iff`), and a circuit that is loaded from
it is sound and as it was created (`loaded`).

Being accepted is not enough to be loaded. The check does not look at the counters, which must be an
object or a list, and not at the settings, which may have a selector start at an infinity
(`exists_ofDocument_iff`).
-/

namespace TickCircuit

namespace Circuit

open Outcome (bind_eq_ok exists_of_mem exists_forall₂)
open Validation (DescribesComponent DescribesWire Lists)

/-! ## §1 Components -/

/-- The component that is read from a document, under its id. -/
def ReadsAs (d : Value) (e : Value × Component) : Prop :=
  Component.ofDocument d = .ok e.2 ∧ e.1 = e.2.id

/-- Reads the components of documents into a circuit. -/
def fill (c : Circuit) (ds : List Value) : Except Fault Circuit :=
  ds.foldlM (fun c d => do c.add (← Component.ofDocument d)) c

theorem ReadsAs.fresh {d id : Value} {kind : Kind} {e : Value × Component} (read : ReadsAs d e)
    (described : DescribesComponent d id kind) :
    e.1 = id ∧ e.2.id = id ∧ e.2.type = .known kind ∧ e.2.Fresh ∧
      e.2.value = (ComponentType.known kind).literalFor (fieldOr d "value" .null) := by
  obtain ⟨read, key⟩ := read
  rw [Component.ofDocument_known described.id described.type described.settings] at read
  obtain ⟨isId, type, fresh, value⟩ := Component.create_fresh read
  exact ⟨key.trans isId, isId, type, fresh, value⟩

/-- A described component whose id is new is put behind the others. -/
theorem add_of_described {d id : Value} {kind : Kind} {x : Component} {c : Circuit}
    (described : DescribesComponent d id kind) (read : Component.ofDocument d = .ok x)
    (isNew : c.components.contains id = false) :
    c.add x = .ok { c with components := c.components ++ [(x.id, x)] } := by
  have isId : x.id = id := (ReadsAs.fresh (e := (x.id, x)) ⟨read, rfl⟩ described).1
  unfold add
  rw [isId, Value.asKey_of_isKey described.scalar]
  simp only [bind, Except.bind, Table.insert_of_not_contains x isNew]
  rfl

/-- Under ids that are different and new, components are put behind each other. -/
theorem fill_eq_ok_iff {ds : List Value} {entries : Validation.Seen} (lists : Lists ds entries)
    {c c' : Circuit} (new : ∀ e ∈ entries, c.components.contains e.1 = false)
    (distinct : entries.Distinct) :
    c.fill ds = .ok c' ↔
      ∃ more, List.Forall₂ ReadsAs ds more ∧ c' = { c with components := c.components ++ more } := by
  -- the circuit grows along the list, so it is generalised
  induction lists generalizing c with
  | nil =>
    constructor
    · intro h
      cases h
      exact ⟨[], .nil, by simp⟩
    · rintro ⟨_, ⟨⟩, rfl⟩
      rw [List.append_nil]
      rfl
  | @cons d e rest entries described lists ih =>
    obtain ⟨isNew, othersNew⟩ := List.forall_mem_cons.1 new
    obtain ⟨differs, othersDistinct⟩ := List.pairwise_cons.1 distinct
    have added {x : Component} (read : Component.ofDocument d = .ok x) :
        c.add x = .ok { c with components := c.components ++ [(x.id, x)] } :=
      add_of_described described read isNew
    have stillNew {x : Component} (read : Component.ofDocument d = .ok x) :
        ∀ e ∈ entries, Table.contains (c.components ++ [(x.id, x)]) e.1 = false := by
      have id : x.id = e.1 := (ReadsAs.fresh (e := (x.id, x)) ⟨read, rfl⟩ described).1
      intro e' he'
      rw [Table.contains_eq_false_iff, List.forall_mem_append, List.forall_mem_singleton]
      refine ⟨Table.contains_eq_false_iff.1 (othersNew e' he'), ?_⟩
      rw [id]
      exact differs e' he'
    unfold fill
    rw [List.foldlM_cons, bind_eq_ok]
    constructor
    · rintro ⟨c₁, first, others⟩
      obtain ⟨x, read, isAdded⟩ := bind_eq_ok.1 first
      rw [added read] at isAdded
      cases isAdded
      obtain ⟨more, reads, rfl⟩ := (ih (stillNew read) othersDistinct).1 others
      exact ⟨(x.id, x) :: more, .cons ⟨read, rfl⟩ reads, by simp⟩
    · rintro ⟨_, _ | ⟨⟨read, key⟩, reads⟩, rfl⟩
      next y more =>
      refine ⟨_, bind_eq_ok.2 ⟨_, read, added read⟩, (ih (stillNew read) othersDistinct).2 ?_⟩
      refine ⟨more, reads, ?_⟩
      obtain ⟨k, x⟩ := y
      change k = x.id at key
      subst key
      simp

/-! ## §2 Documents -/

/-- What a document has to do with the circuit that is read from it. -/
structure Reads (v : Value) (c : Circuit) : Prop where
  components : ∃ ds, v.field "components" = .ok (.list ds) ∧ List.Forall₂ ReadsAs ds c.components
  wires : ∃ ws, v.field "wires" = .ok (.list ws) ∧
    List.Forall₂ (fun d w => Wire.ofDocument d = .ok w) ws c.wires
  counters : countersOf v = .ok c.counters
  wireCounter : c.wireCounter = fieldOr v "wire_counter" (.int 0)

/-- An accepted document is read item by item. -/
theorem ofDocument_eq_ok_iff {v : Value} {c : Circuit} (accepted : Validation.document v = .ok ()) :
    ofDocument v = .ok c ↔ Reads v c := by
  obtain ⟨ds, ws, components, wires, described, apart, -⟩ :=
    Validation.wellFormed_of_accepted accepted
  obtain ⟨entries, lists⟩ := Validation.exists_lists described
  have isObject : v.isObject = true := Validation.isObject_of_field components
  have componentItems : items v "components" = .ok ds := by
    rw [items, fieldOr, components]
    rfl
  have wireItems : items v "wires" = .ok ws := by
    rw [items, fieldOr, wires]
    rfl
  -- what is accepted passes the checks made on the way; three steps are left that can fail
  have unfolded : ofDocument v = (do
      let counters ← countersOf v
      let filled ← fill ⟨[], [], counters, fieldOr v "wire_counter" (.int 0)⟩ ds
      let made ← ws.mapM Wire.ofDocument
      return { filled with wires := made }) := by
    unfold ofDocument
    rw [isObject, componentItems, wireItems]
    rfl
  have filled (counters : Value) {c' : Circuit} :
      fill ⟨[], [], counters, fieldOr v "wire_counter" (.int 0)⟩ ds = .ok c' ↔
        ∃ more, List.Forall₂ ReadsAs ds more ∧
          c' = ⟨[] ++ more, [], counters, fieldOr v "wire_counter" (.int 0)⟩ :=
    fill_eq_ok_iff lists (fun _ _ => rfl) (lists.distinct_iff.2 apart)
  rw [unfolded, bind_eq_ok]
  constructor
  · rintro ⟨counters, counts, h⟩
    obtain ⟨c', isFilled, h⟩ := bind_eq_ok.1 h
    obtain ⟨made, reads, h⟩ := bind_eq_ok.1 h
    obtain ⟨more, componentReads, rfl⟩ := (filled counters).1 isFilled
    cases h
    exact {
      components := ⟨ds, components, by simpa using componentReads⟩
      wires := ⟨ws, wires, Outcome.mapM_eq_ok_iff.1 reads⟩
      counters := counts
      wireCounter := rfl }
  · rintro ⟨⟨ds', components', componentReads⟩, ⟨ws', wires', wireReads⟩, counts, counter⟩
    rw [components] at components'
    rw [wires] at wires'
    cases components'
    cases wires'
    refine ⟨c.counters, counts, bind_eq_ok.2 ⟨_, (filled c.counters).2 ⟨_, componentReads, rfl⟩, ?_⟩⟩
    refine bind_eq_ok.2 ⟨_, Outcome.mapM_eq_ok_iff.2 wireReads, ?_⟩
    rw [← counter]
    rfl

/-- Every component of a circuit that was read is described in the document. -/
theorem Reads.exists_described {v : Value} {c : Circuit} (reads : Reads v c)
    (accepted : Validation.document v = .ok ()) {e : Value × Component} (he : e ∈ c.components) :
    ∃ ds, v.field "components" = .ok (.list ds) ∧ ∃ d ∈ ds, ReadsAs d e ∧
      ∃ id kind, DescribesComponent d id kind := by
  obtain ⟨ds, components, each⟩ := reads.components
  obtain ⟨ds', -, components', -, described, -⟩ := Validation.wellFormed_of_accepted accepted
  rw [components] at components'
  cases components'
  obtain ⟨d, hd, read⟩ := exists_of_mem each he
  exact ⟨ds, components, d, hd, read, described d hd⟩

/-! ## §3 Loaded Circuits -/

/-- All components are as they were created. -/
def Fresh (c : Circuit) : Prop := ∀ e ∈ c.components, e.2.Fresh

/-- The roster of what was read is what the documents describe. -/
theorem roster_of_reads {ds : List Value} {entries : Validation.Seen} (lists : Lists ds entries)
    {t : Table Component} (reads : List.Forall₂ ReadsAs ds t) :
    t.map (fun e => (e.1, e.2.id, e.2.type)) =
      entries.map fun e => (e.1, e.1, ComponentType.known e.2) := by
  induction lists generalizing t with
  | nil =>
    cases reads
    rfl
  | @cons d e rest entries described lists ih =>
    obtain _ | ⟨read, others⟩ := reads
    obtain ⟨key, id, type, -⟩ := read.fresh described
    rw [List.map_cons, List.map_cons, ih others, key, id, type]

/-- A wire is read with what stands in its fields. -/
theorem fields_of_wire {d : Value} {w : Wire} (read : Wire.ofDocument d = .ok w) :
    d.field "id" = .ok w.id ∧
      (d.field "from_id" = .ok w.source ∧ d.field "from_pin" = .ok w.sourcePin) ∧
      d.field "to_id" = .ok w.target ∧ d.field "to_pin" = .ok w.targetPin := by
  unfold Wire.ofDocument at read
  obtain ⟨id, idField, read⟩ := bind_eq_ok.1 read
  obtain ⟨source, sourceField, read⟩ := bind_eq_ok.1 read
  obtain ⟨sourcePin, sourcePinField, read⟩ := bind_eq_ok.1 read
  obtain ⟨target, targetField, read⟩ := bind_eq_ok.1 read
  obtain ⟨targetPin, targetPinField, read⟩ := bind_eq_ok.1 read
  cases read
  exact ⟨idField, ⟨sourceField, sourcePinField⟩, targetField, targetPinField⟩

/-- A described wire ends at a pin of a component that was read. -/
theorem find?_of_endsAt {ds : List Value} {entries : Validation.Seen} (lists : Lists ds entries)
    {roster : Roster} (read : roster = entries.map fun e => (e.1, e.1, .known e.2))
    (distinct : roster.Distinct) {pins : Kind → List String} {idField pinField : String}
    {d id pin : Value} (ends : Validation.EndsAt ds pins idField pinField d)
    (isId : d.field idField = .ok id) (isPin : d.field pinField = .ok pin) :
    ∃ key kind, roster.find? id = some (key, .known kind) ∧
      ((pins kind).any fun p => pin.isText p) = true := by
  obtain ⟨id', pin', idThere, pinThere, c, hc, key, kind, described, same, member⟩ := ends
  rw [isId] at idThere
  rw [isPin] at pinThere
  cases idThere
  cases pinThere
  refine ⟨key, kind, (Table.find?_eq_some_iff distinct).2 ⟨key, ?_, same⟩, ?_⟩
  · rw [read]
    exact List.mem_map_of_mem (lists.mem_iff.2 ⟨c, hc, described⟩)
  · exact Validation.any_isText.2 ⟨pin', rfl, member⟩

/-- A circuit that was read from an accepted document is sound. -/
theorem Reads.sound {v : Value} {c : Circuit} (reads : Reads v c)
    (accepted : Validation.document v = .ok ()) : c.Sound := by
  obtain ⟨ds, ws, components, wires, described, apart, connected⟩ :=
    Validation.wellFormed_of_accepted accepted
  obtain ⟨entries, lists⟩ := Validation.exists_lists described
  obtain ⟨ds', components', componentReads⟩ := reads.components
  obtain ⟨ws', wires', wireReads⟩ := reads.wires
  rw [components] at components'
  rw [wires] at wires'
  cases components'
  cases wires'
  -- the components that were read have the ids and the types that are described, in this order
  have roster : c.roster = entries.map fun e => (e.1, e.1, .known e.2) :=
    roster_of_reads lists componentReads
  have distinct : c.roster.Distinct := by
    rw [roster, Table.Distinct, List.pairwise_map]
    exact lists.distinct_iff.2 apart
  refine ⟨?_, ?_, distinct, ?_⟩
  · rw [roster, List.forall_mem_map]
    intro e he
    obtain ⟨d, -, described⟩ := lists.mem_iff.1 he
    exact ⟨rfl, described.scalar⟩
  · rw [roster, List.forall_mem_map]
    exact fun e _ => ⟨e.2, rfl⟩
  · intro w hw
    obtain ⟨d, hd, read⟩ := exists_of_mem wireReads hw
    obtain ⟨-, ⟨isSource, isSourcePin⟩, isTarget, isTargetPin⟩ := fields_of_wire read
    obtain ⟨-, source, target⟩ := connected d hd
    obtain ⟨key, kind, found, out⟩ :=
      find?_of_endsAt lists roster distinct source isSource isSourcePin
    obtain ⟨key', kind', found', into⟩ :=
      find?_of_endsAt lists roster distinct target isTarget isTargetPin
    exact ⟨⟨_, found, out⟩, ⟨_, found', into⟩⟩

/-- **Loading**: the circuit of an accepted document is sound, and its components are as they were
created. -/
theorem loaded {v : Value} {c : Circuit} (accepted : Validation.document v = .ok ())
    (read : ofDocument v = .ok c) : c.Sound ∧ c.Fresh := by
  have reads : Reads v c := (ofDocument_eq_ok_iff accepted).1 read
  refine ⟨reads.sound accepted, fun e he => ?_⟩
  obtain ⟨_, -, d, -, read, id, kind, described⟩ := reads.exists_described accepted he
  exact (read.fresh described).2.2.2.1

/-! ## §4 What Can Be Loaded -/

/-- Counters are an object or a list. -/
theorem countersOf_eq_ok_iff {v counters : Value} :
    countersOf v = .ok counters ↔ fieldOr v "counters" (.object []) = counters ∧
      (counters.isObject = true ∨ counters.isList = true) := by
  unfold countersOf
  cases fieldOr v "counters" (.object []) with
  | object es =>
    rw [Except.ok.injEq]
    refine (and_iff_left_of_imp ?_).symm
    rintro rfl
    exact .inl rfl
  | list vs =>
    rw [Except.ok.injEq]
    refine (and_iff_left_of_imp ?_).symm
    rintro rfl
    exact .inr rfl
  | _ =>
    refine iff_of_false (fun h => nomatch h) ?_
    rintro ⟨rfl, h | h⟩ <;> cases h

/-- The component that a document describes can be read. -/
theorem exists_readsAs_iff {d id : Value} {kind : Kind} (described : DescribesComponent d id kind) :
    (∃ e, ReadsAs d e) ↔ (kind.shape = .selector →
      ¬ Record.SelectsInfinity (kind.defaults.merge (Component.settingsIn d))) := by
  rw [← Component.create_ok_iff id kind (Component.settingsIn d) (fieldOr d "value" .null),
    ← Component.ofDocument_known described.id described.type described.settings]
  constructor
  · rintro ⟨e, read, -⟩
    exact ⟨e.2, read⟩
  · rintro ⟨x, read⟩
    exact ⟨(x.id, x), read, rfl⟩

/-- The wire that a document describes can be read. -/
theorem exists_wire {ds : List Value} {d : Value} (described : DescribesWire ds d) :
    ∃ w, Wire.ofDocument d = .ok w := by
  obtain ⟨⟨id, isId⟩, ⟨source, sourcePin, isSource, isSourcePin, -⟩,
    ⟨target, targetPin, isTarget, isTargetPin, -⟩⟩ := described
  refine ⟨⟨id, source, .text sourcePin, target, .text targetPin⟩, ?_⟩
  unfold Wire.ofDocument
  rw [isId, isSource, isSourcePin, isTarget, isTargetPin]
  rfl

/-- An accepted document can be loaded when its counters are an object or a list and no selector in it
selects an infinity. -/
theorem exists_ofDocument_iff {v : Value} {ds : List Value}
    (accepted : Validation.document v = .ok ()) (components : v.field "components" = .ok (.list ds)) :
    (∃ c, ofDocument v = .ok c) ↔ (∃ counters, countersOf v = .ok counters) ∧
      ∀ d ∈ ds, ∀ id kind, DescribesComponent d id kind → kind.shape = .selector →
        ¬ Record.SelectsInfinity (kind.defaults.merge (Component.settingsIn d)) := by
  simp only [ofDocument_eq_ok_iff accepted]
  constructor
  · rintro ⟨c, reads⟩
    refine ⟨⟨c.counters, reads.counters⟩, fun d hd id kind described => ?_⟩
    obtain ⟨ds', components', each⟩ := reads.components
    rw [components] at components'
    cases components'
    obtain ⟨e, -, read⟩ := exists_of_mem each.flip hd
    exact (exists_readsAs_iff described).1 ⟨e, read⟩
  · rintro ⟨⟨counters, counts⟩, starts⟩
    obtain ⟨ds', ws, components', wires, describes, -, connected⟩ :=
      Validation.wellFormed_of_accepted accepted
    rw [components] at components'
    cases components'
    obtain ⟨comps, each⟩ : ∃ comps, List.Forall₂ ReadsAs ds comps := by
      refine exists_forall₂ fun d hd => ?_
      obtain ⟨id, kind, described⟩ := describes d hd
      exact (exists_readsAs_iff described).2 (starts d hd id kind described)
    obtain ⟨made, wireReads⟩ := exists_forall₂ fun d hd => exists_wire (connected d hd)
    exact ⟨⟨comps, made, counters, fieldOr v "wire_counter" (.int 0)⟩,
      ⟨ds, components, each⟩, ⟨ws, wires, wireReads⟩, counts, rfl⟩

end Circuit

end TickCircuit

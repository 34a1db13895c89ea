import TickCircuit.Proofs.Circuit.Ids
import TickCircuit.Proofs.Circuit.Wire

/-!
# The Integrity of Circuits

A circuit is integral when its components are stored under their own ids and are of known types, when
both ends of every wire are pins of components that are there, and when no two wires share an id. The
names and the counters belong to the invariant because new ids are made from them.

Only six things can happen to a circuit (`Change`). Each keeps it integral (`Integral.change`), so an
edit has nothing to show but which of the six it is.
-/

namespace TickCircuit

namespace Circuit

/-! ## §1 The Plan of a Circuit -/

/-- The ids and types of the components by their keys. -/
abbrev Roster := Table (Value × ComponentType)

/-- The components, as far as nothing that happens inside them is concerned. -/
def roster (c : Circuit) : Roster := c.components.map fun e => (e.1, e.2.id, e.2.type)

@[simp] theorem contains_roster (c : Circuit) (key : Value) :
    c.roster.contains key = c.components.contains key :=
  Table.contains_map (fun x : Component => (x.id, x.type)) c.components key

@[simp] theorem find?_roster (c : Circuit) (key : Value) :
    c.roster.find? key = (c.components.find? key).map fun x => (x.id, x.type) :=
  Table.find?_map (fun x : Component => (x.id, x.type)) c.components key

/-- Nothing has changed but what is inside the components. -/
structure SamePlan (c c' : Circuit) : Prop where
  roster : c'.roster = c.roster
  wires : c'.wires = c.wires
  counters : c'.counters = c.counters
  wireCounter : c'.wireCounter = c.wireCounter

theorem SamePlan.refl (c : Circuit) : c.SamePlan c := ⟨rfl, rfl, rfl, rfl⟩

theorem SamePlan.trans {a b c : Circuit} (hab : a.SamePlan b) (hbc : b.SamePlan c) :
    a.SamePlan c :=
  ⟨hbc.roster.trans hab.roster, hbc.wires.trans hab.wires, hbc.counters.trans hab.counters,
    hbc.wireCounter.trans hab.wireCounter⟩

/-! ## §2 Integrity -/

/-- The wire runs from an output pin of a component to an input pin of one. -/
structure Connects (roster : Roster) (w : Wire) : Prop where
  source : ∃ r, roster.find? w.source = some r ∧ r.2.hasOutputPin w.sourcePin = true
  target : ∃ r, roster.find? w.target = some r ∧ r.2.hasInputPin w.targetPin = true

structure Integral (c : Circuit) : Prop where
  /-- Components are stored under their ids. -/
  keyed : ∀ r ∈ c.roster, r.2.1 = r.1 ∧ r.1.isKey = true
  known : ∀ r ∈ c.roster, ∃ kind, r.2.2 = .known kind
  distinct : c.roster.Distinct
  connected : ∀ w ∈ c.wires, Connects c.roster w
  /-- Wires have texts for ids, no two the same one. -/
  named : ∀ w ∈ c.wires, w.id.IsText
  apart : (c.wires.map (·.id)).Nodup
  counted : c.Counted

theorem integral_empty : empty.Integral where
  keyed := by simp [roster, empty]
  known := by simp [roster, empty]
  distinct := List.Pairwise.nil
  connected := by simp [empty]
  named := by simp [empty]
  apart := List.nodup_nil
  counted := ⟨⟨[], rfl, by simp⟩, 0, rfl⟩

theorem Connects.keyed {roster : Roster} {w : Wire} (h : Connects roster w) : w.Keyed := by
  obtain ⟨⟨source, found, out⟩, ⟨target, found', into⟩⟩ := h
  exact ⟨Table.isKey_of_find? found, isKey_of_pin out, Table.isKey_of_find? found', isKey_of_pin into⟩

/-- A wire that does not touch a component is still connected when the component is gone. -/
theorem Connects.erase {roster : Roster} {w : Wire} (h : Connects roster w) {id : Value}
    (apart : w.touches id = false) : Connects (roster.erase id) w := by
  rw [h.keyed.touches_eq, Bool.or_eq_false_iff] at apart
  refine ⟨?_, ?_⟩
  · rw [Table.find?_erase apart.1]
    exact h.source
  · rw [Table.find?_erase apart.2]
    exact h.target

/-- A component put behind all others does not hide any of them. -/
theorem Connects.append {roster : Roster} {w : Wire} (h : Connects roster w) (more : Roster) :
    Connects (roster ++ more) w := by
  obtain ⟨⟨source, found, out⟩, ⟨target, found', into⟩⟩ := h
  exact ⟨⟨source, Table.find?_append_of_find? found more, out⟩,
    ⟨target, Table.find?_append_of_find? found' more, into⟩⟩

/-! ## §3 What Can Happen to a Circuit -/

/-- The counters are as before, or one of them has counted on. -/
def Counts (c : Circuit) (counters : Value) : Prop :=
  counters = c.counters ∨ ∃ (type : Value) (before after : Nat),
    c.counterOf type = .ok (.int before) ∧ before < after ∧
      counters = setCounter c.counters type (.int after)

/-- What can happen to a circuit, with the wire that is made by it, if one is. -/
inductive Change (c : Circuit) : Option Wire → Circuit → Prop where
  /-- Nothing happens but inside the components and to their counters. -/
  | inside {c' : Circuit} (roster : c'.roster = c.roster) (wires : c'.wires = c.wires)
      (counters : c.Counts c'.counters) (wireCounter : c'.wireCounter = c.wireCounter) :
      Change c none c'
  | added {c' : Circuit} {id : Value} {kind : Kind} (key : id.isKey = true)
      (free : c.roster.contains id = false) (roster : c'.roster = c.roster ++ [(id, id, .known kind)])
      (wires : c'.wires = c.wires) (counters : c.Counts c'.counters)
      (wireCounter : c'.wireCounter = c.wireCounter) : Change c none c'
  | removed (id : Value) :
      Change c none
        { c with components := c.components.erase id, wires := c.wires.filter (!·.touches id) }
  | joined {w : Wire} {before after : Nat} (connects : Connects c.roster w)
      (counter : c.wireCounter = .int before) (above : before < after)
      (named : w.id = numbered "W" after) (free : ∀ v ∈ c.wires, v.id ≠ w.id) :
      Change c (some w) { c with wires := c.wires ++ [w], wireCounter := .int after }
  | cut (id : Value) : Change c none { c with wires := c.wires.eraseP (·.id.same id) }
  | cleared : Change c none c.clear

/-- What can happen to the wires of a circuit: some are taken away, or one is put behind the
others. -/
theorem Change.wires_cases {c c' : Circuit} {made : Option Wire}
    (h : c.Change made c') :
    c'.wires.Sublist c.wires ∨ ∃ w, w ∉ c.wires ∧ c'.wires = c.wires ++ [w] := by
  cases h with
  | inside _ wires => exact .inl (wires ▸ .refl _)
  | added _ _ _ wires => exact .inl (wires ▸ .refl _)
  | removed id => exact .inl List.filter_sublist
  | @joined w _ _ _ _ _ _ free => exact .inr ⟨w, fun member => free w member rfl, rfl⟩
  | cut id => exact .inl List.eraseP_sublist
  | cleared => exact .inl (List.nil_sublist _)

theorem SamePlan.change {c c' : Circuit} (h : c.SamePlan c') : Change c none c' :=
  .inside h.roster h.wires (.inl h.counters) h.wireCounter

theorem Counted.counts {c c' : Circuit} (h : c.Counted) (counters : c.Counts c'.counters)
    (wireCounter : c'.wireCounter = c.wireCounter) : c'.Counted := by
  obtain ⟨n, hn⟩ := h.wires
  refine ⟨?_, n, wireCounter.trans hn⟩
  rcases counters with same | ⟨type, before, after, -, -, set⟩
  · rw [same]
    exact h.types
  · rw [set]
    exact (h.setCounter type after).types

/-- An integral circuit of which only some wires are kept. -/
theorem Integral.keepWires {c : Circuit} (h : c.Integral) {wires : List Wire}
    (kept : wires.Sublist c.wires) : Integral { c with wires } where
  keyed := h.keyed
  known := h.known
  distinct := h.distinct
  connected := fun w hw => h.connected w (kept.subset hw)
  named := fun w hw => h.named w (kept.subset hw)
  apart := h.apart.sublist (kept.map _)
  counted := ⟨h.counted.types, h.counted.wires⟩

/-- An integral circuit without one of the components that no wire touches. -/
theorem Integral.eraseComponent {c : Circuit} (h : c.Integral) {id : Value}
    (apart : ∀ w ∈ c.wires, w.touches id = false) :
    Integral { c with components := c.components.erase id } := by
  have roster : roster { c with components := c.components.erase id } = c.roster.erase id :=
    Table.map_erase (fun x : Component => (x.id, x.type)) c.components id
  have fewer := Table.erase_sublist c.roster id
  exact {
    keyed := fun r hr => h.keyed r (fewer.subset (roster ▸ hr))
    known := fun r hr => h.known r (fewer.subset (roster ▸ hr))
    distinct := roster ▸ h.distinct.sublist fewer
    connected := fun w hw => roster ▸ (h.connected w hw).erase (apart w hw)
    named := h.named
    apart := h.apart
    counted := ⟨h.counted.types, h.counted.wires⟩ }

/-- An integral circuit of which only the insides of components and the counters change. -/
theorem Integral.inside {c c' : Circuit} (h : c.Integral) (roster : c'.roster = c.roster)
    (wires : c'.wires = c.wires) (counted : c'.Counted) : c'.Integral where
  keyed := roster ▸ h.keyed
  known := roster ▸ h.known
  distinct := roster ▸ h.distinct
  connected := by
    rw [roster, wires]
    exact h.connected
  named := wires ▸ h.named
  apart := wires ▸ h.apart
  counted := counted

/-- An integral circuit with one more component, under a new id. -/
theorem Integral.addComponent {c c' : Circuit} (h : c.Integral) {id : Value} {kind : Kind}
    (key : id.isKey = true) (free : c.roster.contains id = false)
    (roster : c'.roster = c.roster ++ [(id, id, .known kind)]) (wires : c'.wires = c.wires)
    (counted : c'.Counted) : c'.Integral where
  keyed := by
    rw [roster, List.forall_mem_append, List.forall_mem_singleton]
    exact ⟨h.keyed, rfl, key⟩
  known := by
    rw [roster, List.forall_mem_append, List.forall_mem_singleton]
    exact ⟨h.known, _, rfl⟩
  distinct := roster ▸ h.distinct.append_one _ free
  connected := by
    rw [roster, wires]
    exact fun w hw => (h.connected w hw).append _
  named := wires ▸ h.named
  apart := wires ▸ h.apart
  counted := counted

/-- An integral circuit with one more wire. The roster is not touched: only what is said about all wires
has a new case. -/
theorem Integral.addWire {c : Circuit} (h : c.Integral) {w : Wire} {count : Nat}
    (connects : Connects c.roster w) (named : w.id = numbered "W" count) (free : ∀ v ∈ c.wires, v.id ≠ w.id) :
    Integral { c with wires := c.wires ++ [w], wireCounter := .int count } where
  keyed := h.keyed
  known := h.known
  distinct := h.distinct
  connected := List.forall_mem_append.2 ⟨h.connected, List.forall_mem_singleton.2 connects⟩
  named := List.forall_mem_append.2 ⟨h.named, List.forall_mem_singleton.2 ⟨_, named⟩⟩
  apart := by
    rw [List.map_append, List.nodup_append]
    refine ⟨h.apart, List.nodup_singleton _, ?_⟩
    intro a ha b hb
    obtain ⟨v, hv, rfl⟩ := List.mem_map.1 ha
    rw [List.mem_singleton.1 hb]
    exact free v hv
  counted := ⟨h.counted.types, count, rfl⟩

/-- Counters that count are an object, so clearing leads back to the empty circuit. -/
theorem Counted.clear_eq {c : Circuit} (h : c.Counted) : c.clear = empty := by
  obtain ⟨es, hes, -⟩ := h.types
  rw [Circuit.clear, hes]
  rfl

/-- **Step**: whatever happens to an integral circuit, it stays integral. -/
theorem Integral.change {c c' : Circuit} {made : Option Wire} (h : c.Integral)
    (change : Change c made c') : c'.Integral := by
  cases change with
  | inside roster wires counters wireCounter =>
    exact h.inside roster wires (h.counted.counts counters wireCounter)
  | added key free roster wires counters wireCounter =>
    exact h.addComponent key free roster wires (h.counted.counts counters wireCounter)
  | removed id =>
    -- first the wires go that touch the component, then the component
    have untouched : ∀ w ∈ c.wires.filter (!·.touches id), w.touches id = false := by
      intro w hw
      simpa using (List.mem_filter.1 hw).2
    exact (h.keepWires List.filter_sublist).eraseComponent untouched
  | joined connects _ _ named free => exact h.addWire connects named free
  | cut id => exact h.keepWires List.eraseP_sublist
  | cleared =>
    rw [h.counted.clear_eq]
    exact integral_empty

/-! ## §4 Lawful Circuits -/

/-- Components are stored under their ids, and wires run between keys. Less than integrity, this holds
of circuits from files as well. -/
structure Lawful (c : Circuit) : Prop where
  ids : ∀ e ∈ c.components, e.2.id.isKey = true ∧ e.1.key? = e.2.id.key?
  wires : ∀ w ∈ c.wires, w.Keyed

/-- Components of known types are stored under their ids, no two under the same one, and wires run
between their pins. This holds of circuits from files as well, whose wires and counters can be anything
otherwise. -/
structure Sound (c : Circuit) : Prop where
  keyed : ∀ r ∈ c.roster, r.2.1 = r.1 ∧ r.1.isKey = true
  known : ∀ r ∈ c.roster, ∃ kind, r.2.2 = .known kind
  distinct : c.roster.Distinct
  connected : ∀ w ∈ c.wires, Connects c.roster w

theorem Integral.sound {c : Circuit} (h : c.Integral) : c.Sound :=
  ⟨h.keyed, h.known, h.distinct, h.connected⟩

theorem Sound.lawful {c : Circuit} (h : c.Sound) : c.Lawful where
  ids := by
    intro e he
    obtain ⟨id, key⟩ := h.keyed _ (List.mem_map_of_mem he)
    change e.2.id = e.1 at id
    rw [id]
    exact ⟨key, rfl⟩
  wires := fun w hw => (h.connected w hw).keyed

theorem Integral.lawful {c : Circuit} (h : c.Integral) : c.Lawful := h.sound.lawful

/-- Components are stored under their ids, no two under the same one. -/
structure Indexed (c : Circuit) : Prop where
  ids : ∀ e ∈ c.components, e.1.key? = e.2.id.key?
  distinct : c.components.Distinct

theorem Integral.indexed {c : Circuit} (h : c.Integral) : c.Indexed where
  ids := fun e he => (h.lawful.ids e he).2
  distinct := List.pairwise_map.1 h.distinct

/-- As long as an id is in use, it is in use for the same component. -/
theorem Integral.find?_roster_of_stays {c c' : Circuit} {made : Option Wire} (h : c.Integral)
    (change : Change c made c') {id : Value} (before : c.components.contains id = true)
    (after : c'.components.contains id = true) : c'.roster.find? id = c.roster.find? id := by
  cases change with
  | inside roster => rw [roster]
  | added _ _ roster =>
    rw [← contains_roster] at before
    obtain ⟨r, found⟩ := Option.isSome_iff_exists.1 before
    rw [roster, Table.find?_append_of_find? found, found]
  | removed gone =>
    have differs : id.sameScalar gone = false := by
      rw [Bool.eq_false_iff]
      intro same
      rw [Table.contains_erase h.indexed.distinct same] at after
      cases after
    rw [find?_roster, find?_roster, Table.find?_erase differs]
  | joined => rfl
  | cut => rfl
  | cleared => cases after

end Circuit

end TickCircuit

import TickCircuit.Circuit.Editing
import TickCircuit.Proofs.Component.Documents

/-!
# How Edits End

The definitions of the edits are opened here only. Each way in which an edit can end is one case of a
relation (`Edit.Ends`), with what the edit leaves, what it announces, and the facts that have led to it.
What is said about all edits is shown along these cases (`Edit.ends`).

Most edits that fail do so before they have done anything. Two can fail later: an id is made before it
is known whether the component can be created, and new settings are put on top of the old ones before
the component starts again. The second is an ending of one component (`Component.Resettled`).
-/

namespace TickCircuit

/-- An edit with its arguments. -/
inductive Edit where
  | addComponent (type settings id : Value)
  | removeComponent (id : Value)
  | updateSettings (id changes : Value)
  | updateValue (id value : Value)
  | press (id : Value) (isPressed : Bool)
  | connect (sourceId sourcePin targetId targetPin : Value)
  | disconnect (id : Value)
  | clear

/-- What an edit without a result leads to. -/
def Edited.noResult (edited : Edited Unit) : Edited Value :=
  ⟨edited.circuit, edited.result.map fun _ => .null, edited.events⟩

/-- What an edit leads to. Its result is the id that it has made, if it makes one. -/
def Edit.apply : Edit → Circuit → Edited Value
  | addComponent type settings id, c => c.addComponent type settings id
  | removeComponent id, c => (c.removeComponent id).noResult
  | updateSettings id changes, c => (c.updateSettings id changes).noResult
  | updateValue id value, c => (c.updateValue id value).noResult
  | press id isPressed, c => (c.press id isPressed).noResult
  | connect sourceId sourcePin targetId targetPin, c =>
    c.connect sourceId sourcePin targetId targetPin
  | disconnect id, c => (c.disconnect id).noResult
  | clear, c => c.clearAll.noResult

/-! ## §1 New Components -/

/-- The kind takes what is given for settings: it is a table, or nothing, and not one that makes a
selector select an infinity. -/
def Kind.Takes (kind : Kind) (settings : Value) : Prop :=
  ∃ record, (if settings.truthy then settings else .object []).toRecord = .ok record ∧
    (kind.shape = .selector → ¬ Record.SelectsInfinity (kind.defaults.merge record))

namespace Component

/-- The component that is created with what is given for its settings. -/
def ofSettings (id type settings : Value) : Except Fault Component := do
  create id type (← (if settings.truthy then settings else .object []).toRecord) .null

variable {id settings : Value} {kind : Kind} {x : Component}

theorem ofSettings_ok_iff (id : Value) (kind : Kind) (settings : Value) :
    (∃ x, ofSettings id (.text kind.name) settings = .ok x) ↔ kind.Takes settings := by
  unfold ofSettings Kind.Takes
  simp only [Outcome.bind_eq_ok, ← create_ok_iff id kind _ .null]
  constructor
  · rintro ⟨x, record, taken, created⟩
    exact ⟨record, taken, x, created⟩
  · rintro ⟨record, taken, x, created⟩
    exact ⟨x, record, taken, created⟩

/-- It was created with some settings. -/
theorem exists_create_of_ofSettings {type : Value} (made : ofSettings id type settings = .ok x) :
    ∃ record, create id type record .null = .ok x := by
  obtain ⟨record, -, created⟩ := Outcome.bind_eq_ok.1 made
  exact ⟨record, created⟩

end Component

/-! ## §2 New Settings -/

namespace Component

/-- The component with changes put on top of its settings, as far as they can be. -/
def changed (old : Component) (changes : Value) : Component :=
  { old with settings := (changes.putOnto old.settings).2 }

/-- The ways in which new settings can end, each with what is left of the component. -/
inductive Resettled (old : Component) (changes : Value) : Except Fault Unit → Component → Prop where
  /-- A part of the changes cannot be put on top of the settings. -/
  | brokenOff {e : Fault} (failed : (changes.putOnto old.settings).1 = .error e) :
      Resettled old changes (.error e) (old.changed changes)
  /-- No state can be started from the new settings. -/
  | stuck {e : Fault} (failed : (old.changed changes).reset = .error e) :
      Resettled old changes (.error e) (old.changed changes)
  | restarted {fresh : Component} (isReset : (old.changed changes).reset = .ok fresh) :
      Resettled old changes (.ok ()) fresh
  /-- No setting is changed from which a state starts. -/
  | kept (put : (changes.putOnto old.settings).1 = .ok ())
      (stays : Circuit.changesAny old.settings changes Circuit.seedSettings = .ok false ∨
        old.type.shape = .stateless) :
      Resettled old changes (.ok ()) (old.changed changes)

end Component

/-! ## §3 Edits -/

/-- The ways in which an edit can end, each with what the edit has led to. -/
inductive Edit.Ends (c : Circuit) : Edit → Edited Value → Prop where
  /-- It fails before it has done anything. -/
  | failed {edit : Edit} (fault : Fault) : Ends c edit (.failed c fault)
  /-- There is nothing with the id. -/
  | ignored {edit : Edit} : Ends c edit (.done c .null [])
  /-- An id is made for a component that cannot be created. -/
  | unmade {kind : Kind} {settings id : Value} {c' : Circuit} {fault : Fault}
      (made : c.nextComponentId (.text kind.name) = .ok (id, c'))
      (fails : Component.ofSettings id (.text kind.name) settings = .error fault) :
      Ends c (.addComponent (.text kind.name) settings .null) (.failed c' fault)
  | numbered {kind : Kind} {settings id : Value} {c' : Circuit} {x : Component}
      (made : c.nextComponentId (.text kind.name) = .ok (id, c'))
      (created : Component.ofSettings id (.text kind.name) settings = .ok x) :
      Ends c (.addComponent (.text kind.name) settings .null)
        (.done { c' with components := c'.components.insert id x } id [.componentAdded id])
  | named {kind : Kind} {settings id : Value} {x : Component} (key : id.isKey = true)
      (free : c.components.contains id = false)
      (created : Component.ofSettings id (.text kind.name) settings = .ok x) :
      Ends c (.addComponent (.text kind.name) settings id)
        (.done { c with components := c.components.insert id x } id [.componentAdded id])
  | removed {id : Value} {x : Component} (found : c.find? id = .ok (some x)) :
      Ends c (.removeComponent id) (.done
        { c with components := c.components.erase id, wires := c.wires.filter (!·.touches id) } .null
        (((c.wires.filter (·.touches id)).map (·.id)).map .wireRemoved ++ [.componentRemoved id]))
  /-- The new settings of a component end in a fault. -/
  | unsettled {id changes : Value} {old x : Component} {fault : Fault}
      (found : c.find? id = .ok (some old)) (left : old.Resettled changes (.error fault) x) :
      Ends c (.updateSettings id changes) (.failed (c.replace id x) fault)
  | resettled {id changes : Value} {old x : Component}
      (found : c.find? id = .ok (some old)) (left : old.Resettled changes (.ok ()) x) :
      Ends c (.updateSettings id changes) (.done (c.replace id x) .null [.settingsChanged old.id])
  | valued {id value : Value} {old : Component} (found : c.find? id = .ok (some old)) :
      Ends c (.updateValue id value)
        (.done (c.replace id { old with value }) .null [.valueChanged old.id])
  | pressed {id : Value} {isPressed : Bool} {old x : Component}
      (found : c.find? id = .ok (some old)) (done : Circuit.pressed isPressed old = some x) :
      Ends c (.press id isPressed) (.done (c.replace id x) .null [.buttonChanged old.id])
  | connected {sourceId sourcePin targetId targetPin id : Value} {source target : Component}
      {c' : Circuit} (found : c.find? sourceId = .ok (some source))
      (out : source.type.hasOutputPin sourcePin = true)
      (found' : c.find? targetId = .ok (some target))
      (into : target.type.hasInputPin targetPin = true) (made : c.nextWireId = .ok (id, c')) :
      Ends c (.connect sourceId sourcePin targetId targetPin)
        (.done (c'.addWire ⟨id, sourceId, sourcePin, targetId, targetPin⟩) id [.wireAdded id])
  | disconnected {id : Value} (events : List Event) :
      Ends c (.disconnect id) (.done { c with wires := c.wires.eraseP (·.id.same id) } .null events)
  | cleared : Ends c .clear (.done c.clear .null [.circuitCleared])

namespace Circuit

variable {c : Circuit} {id : Value}

theorem find?_of_ok {found : Option Component} (h : c.find? id = .ok found) :
    id.isKey = true ∧ c.components.find? id = found := by
  unfold Circuit.find? at h
  cases key : id.asKey with
  | error e => rw [key] at h; cases h
  | ok id' =>
    obtain ⟨isKey, rfl⟩ := Value.isKey_of_asKey key
    rw [key] at h
    cases h
    exact ⟨isKey, rfl⟩

/-- Making an id counts on and does nothing else. -/
theorem nextComponentId_eq_ok {type id : Value} {c' : Circuit}
    (made : c.nextComponentId type = .ok (id, c')) : id.isKey = true ∧
      ∃ count, c' = { c with counters := setCounter c.counters type count } := by
  unfold nextComponentId at made
  obtain ⟨counter, -, made⟩ := Outcome.bind_eq_ok.1 made
  obtain ⟨count, -, made⟩ := Outcome.bind_eq_ok.1 made
  cases made
  exact ⟨rfl, count, rfl⟩

theorem nextWireId_eq_ok {id : Value} {c' : Circuit} (made : c.nextWireId = .ok (id, c')) :
    ∃ count, c' = { c with wireCounter := count } := by
  unfold nextWireId at made
  obtain ⟨taken, -, made⟩ := Outcome.bind_eq_ok.1 made
  obtain ⟨count, -, made⟩ := Outcome.bind_eq_ok.1 made
  cases made
  exact ⟨count, rfl⟩

/-- Under a key, a component is placed when it can be created. -/
theorem place_eq (c : Circuit) (key : id.isKey = true) (type settings : Value) :
    c.place id type settings = match Component.ofSettings id type settings with
      | .error e => .failed c e
      | .ok x => .done { c with components := c.components.insert id x } id [.componentAdded id] := by
  unfold place Component.ofSettings
  dsimp only
  cases (if settings.truthy then settings else .object []).toRecord with
  | error e => rfl
  | ok record =>
    simp only [bind, Except.bind]
    cases created : Component.create id type record .null with
    | error e => rfl
    | ok x =>
      have isId : x.id = id := (Component.create_id_type created).1
      have added : c.add x = .ok { c with components := c.components.insert id x } := by
        unfold Circuit.add
        rw [isId, Value.asKey_of_isKey key]
        rfl
      simp only [added]

theorem addComponent_ends (c : Circuit) (type settings id : Value) :
    Edit.Ends c (.addComponent type settings id) (c.addComponent type settings id) := by
  unfold addComponent
  -- the fault of a foreign type comes first, then the ids are told apart: none, taken, or free
  split
  · exact .failed _
  · next kind known =>
    obtain rfl : type = .text kind.name := ComponentType.kind?_ofValue.1 known
    split
    · split
      · exact .failed _
      · next id c' made =>
        rw [c'.place_eq (nextComponentId_eq_ok made).1]
        cases created : Component.ofSettings id (.text kind.name) settings with
        | error e => exact .unmade made created
        | ok x => exact .numbered made created
    · split
      · exact .failed _
      · exact .failed _
      · next free =>
        obtain ⟨key, free⟩ := find?_of_ok free
        rw [c.place_eq key]
        cases created : Component.ofSettings _ (.text kind.name) settings with
        | error e => exact .failed e
        | ok x => exact .named key (by rw [Table.contains, free]; rfl) created

theorem removeComponent_ends (c : Circuit) (id : Value) :
    Edit.Ends c (.removeComponent id) (c.removeComponent id).noResult := by
  unfold removeComponent
  split
  · exact .failed _
  · exact .ignored
  · next x found =>
    obtain ⟨key, there⟩ := find?_of_ok found
    have removed : c.remove id = .ok ((c.wires.filter (·.touches id)).map (·.id),
        { c with wires := c.wires.filter (!·.touches id), components := c.components.erase id }) := by
      unfold remove
      rw [Value.asKey_of_isKey key]
      simp only [bind, Except.bind, Table.contains, there, Option.isSome_some,
        List.partition_eq_filter_filter]
      rfl
    rw [removed]
    exact .removed found

theorem updateSettings_ends (c : Circuit) (id changes : Value) :
    Edit.Ends c (.updateSettings id changes) (c.updateSettings id changes).noResult := by
  unfold updateSettings
  split
  · exact .failed _
  · exact .ignored
  · next old found =>
    split
    · exact .failed _
    · next reseeds compared =>
      dsimp only
      split
      · next failed => exact .unsettled found (.brokenOff failed)
      -- all settings are put; the component starts again if that matters to its state
      · next put =>
        split
        · split
          · next failed => exact .unsettled found (.stuck failed)
          · next isReset => exact .resettled found (.restarted isReset)
        · next stays =>
          refine .resettled found (.kept put ?_)
          cases reseeds with
          | false => exact .inl compared
          | true => exact .inr (by simpa using stays)

theorem updateValue_ends (c : Circuit) (id value : Value) :
    Edit.Ends c (.updateValue id value) (c.updateValue id value).noResult := by
  unfold updateValue
  split
  · exact .failed _
  · exact .ignored
  · next found => exact .valued found

theorem press_ends (c : Circuit) (id : Value) (isPressed : Bool) :
    Edit.Ends c (.press id isPressed) (c.press id isPressed).noResult := by
  unfold press
  split
  · exact .failed _
  · exact .ignored
  · next found =>
    split
    · next done => exact .pressed found done
    · exact .failed _

theorem connect_ends (c : Circuit) (sourceId sourcePin targetId targetPin : Value) :
    Edit.Ends c (.connect sourceId sourcePin targetId targetPin)
      (c.connect sourceId sourcePin targetId targetPin) := by
  unfold connect
  split
  · exact .failed _
  · exact .failed _
  · exact .failed _
  · exact .failed _
  · next found found' =>
    split
    · exact .failed _
    · next out =>
      split
      · exact .failed _
      · next into =>
        split
        · exact .failed _
        · split
          · exact .failed _
          · next made => exact .connected found (by simpa using out) found' (by simpa using into) made

theorem disconnect_ends (c : Circuit) (id : Value) :
    Edit.Ends c (.disconnect id) (c.disconnect id).noResult := by
  unfold disconnect removeWire
  cases c.wires.any (·.id.same id) with
  | true => exact .disconnected [.wireRemoved id]
  | false => exact .disconnected []

end Circuit

/-- **Endings**: every edit ends in one of these ways. -/
theorem Edit.ends (edit : Edit) (c : Circuit) : edit.Ends c (edit.apply c) := by
  cases edit with
  | addComponent type settings id => exact c.addComponent_ends type settings id
  | removeComponent id => exact c.removeComponent_ends id
  | updateSettings id changes => exact c.updateSettings_ends id changes
  | updateValue id value => exact c.updateValue_ends id value
  | press id isPressed => exact c.press_ends id isPressed
  | connect sourceId sourcePin targetId targetPin =>
    exact c.connect_ends sourceId sourcePin targetId targetPin
  | disconnect id => exact c.disconnect_ends id
  | clear => exact .cleared

end TickCircuit

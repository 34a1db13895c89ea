import TickCircuit.Proofs.Circuit.Documents
import TickCircuit.Proofs.Circuit.Loading
import TickCircuit.Proofs.Engine.Tick

/-!
# Saving and Loading Again

The document of a circuit can leave something out: signals and states are not written, nor are values
that are nothing, and what is missing is filled in when the document is read. Nothing is lost on a
circuit as it was created, and a circuit that was loaded is one. So loading and saving is a normal form:
a loaded circuit that is saved and loaded once more is the same circuit (`ofDocument_toDocument`), and
it runs in the same way (`reload_preserves`).

Only what comes from a file is covered: values that are explicitly nothing do not occur there
(`Value.isJson`).
-/

namespace TickCircuit

/-! ## §1 Values from Files -/

namespace Value

mutual

/-- A value that can stand in a file: nothing in it is explicitly nothing, and the keys of its objects
are texts, no two of them equal. -/
def isJson : Value → Bool
  | absent => false
  | list items => areJson items
  | object entries => entriesAreJson entries
  | _ => true

/-- All values of a list can stand in a file. -/
def areJson : List Value → Bool
  | [] => true
  | v :: rest => v.isJson && areJson rest

/-- The entries can stand in an object of a file. -/
def entriesAreJson : List (Value × Value) → Bool
  | [] => true
  | (key, v) :: rest =>
    key matches .text _ && !Table.contains rest key && v.isJson && entriesAreJson rest

end

theorem isJson_of_areJson {vs : List Value} (h : areJson vs = true) {v : Value} (member : v ∈ vs) :
    v.isJson = true := by
  induction vs with
  | nil => cases member
  | cons w rest ih =>
    rw [areJson, Bool.and_eq_true] at h
    rcases List.mem_cons.1 member with rfl | later
    · exact h.1
    · exact ih h.2 later

theorem isJson_of_entriesAreJson {es : Record} (h : entriesAreJson es = true) {name : String}
    {v : Value} (found : Table.get? es name = some v) : v.isJson = true := by
  induction es with
  | nil => cases found
  | cons e rest ih =>
    obtain ⟨k, w⟩ := e
    simp only [entriesAreJson, Bool.and_eq_true] at h
    rw [Table.get?, Table.find?_cons] at found
    split at found
    · cases found
      exact h.1.2
    · exact ih h.2 found

/-- The fields of an object from a file are from the file as well. -/
theorem isJson_of_field {v w : Value} {name : String} (h : v.isJson = true)
    (field : v.field name = .ok w) : w.isJson = true := by
  cases v with
  | object es =>
    simp only [Value.field] at field
    split at field
    · next found =>
      cases field
      exact isJson_of_entriesAreJson h found
    · cases field
  | _ => cases field

end Value

namespace Circuit

variable {c c' : Circuit}

/-! ## §2 Loading What Was Saved -/

/-- What is read from the document of a sound circuit: its wires and counters, and its components as
they are read back one by one. -/
theorem ofDocument_toDocument_iff (sound : c.Sound) :
    ofDocument c.toDocument = .ok c' ↔ (c.counters.isObject = true ∨ c.counters.isList = true) ∧
      c'.counters = c.counters ∧ c'.wireCounter = c.wireCounter ∧ c'.wires = c.wires ∧
        List.Forall₂ (fun e e' => ReadsAs e.2.toDocument e') c.components c'.components := by
  have components : c.toDocument.field "components" =
      .ok (.list (c.components.map fun e => e.2.toDocument)) := rfl
  have wires : c.toDocument.field "wires" = .ok (.list (c.wires.map Wire.toDocument)) := rfl
  have counters : fieldOr c.toDocument "counters" (.object []) = c.counters := rfl
  -- wires are read back as they were written
  have wireReads : List.Forall₂ (fun d w => Wire.ofDocument d = .ok w) (c.wires.map Wire.toDocument)
      c'.wires ↔ c.wires = c'.wires := by
    have read (w : Wire) : Wire.ofDocument w.toDocument = .ok w := rfl
    simp only [List.forall₂_map_left_iff, read, Except.ok.injEq, List.forall₂_eq_eq_eq]
  rw [ofDocument_eq_ok_iff (Validation.document_accepted_of_sound sound)]
  constructor
  · rintro ⟨⟨ds, isList, each⟩, ⟨ws, isList', eachWire⟩, counts, counter⟩
    rw [components] at isList
    rw [wires] at isList'
    cases isList
    cases isList'
    obtain ⟨same, isTable⟩ := countersOf_eq_ok_iff.1 counts
    rw [counters] at same
    exact ⟨same ▸ isTable, same.symm, counter, (wireReads.1 eachWire).symm,
      List.forall₂_map_left_iff.1 each⟩
  · rintro ⟨isTable, same, counter, sameWires, each⟩
    exact {
      components := ⟨_, components, List.forall₂_map_left_iff.2 each⟩
      wires := ⟨_, wires, wireReads.2 sameWires.symm⟩
      counters := countersOf_eq_ok_iff.2 ⟨counters.trans same.symm, same ▸ isTable⟩
      wireCounter := counter }

/-- A sound circuit as it was created is read back as it is, when no value in it is explicitly
nothing. -/
theorem ofDocument_toDocument (sound : c.Sound) (fresh : c.Fresh)
    (counters : c.counters.isObject = true ∨ c.counters.isList = true)
    (given : ∀ e ∈ c.components, e.2.value ≠ .absent) : ofDocument c.toDocument = .ok c := by
  refine (ofDocument_toDocument_iff sound).2 ⟨counters, rfl, rfl, rfl, ?_⟩
  rw [List.forall₂_same]
  intro e he
  have key : e.2.id = e.1 := (sound.keyed _ (List.mem_map_of_mem he)).1
  exact ⟨(fresh e he).ofDocument_toDocument (given e he), key.symm⟩

/-! ## §3 Loading Twice -/

/-- No value is explicitly nothing in a circuit that was loaded from a file. -/
theorem Reads.value_ne_absent {v : Value} (reads : Reads v c)
    (accepted : Validation.document v = .ok ()) (json : v.isJson = true) :
    ∀ e ∈ c.components, e.2.value ≠ .absent := by
  intro e he nothing
  obtain ⟨ds, components, d, hd, read, id, kind, described⟩ := reads.exists_described accepted he
  obtain ⟨-, -, -, -, value⟩ := read.fresh described
  rw [nothing] at value
  -- a literal is a text, so nothing can only come from the document
  have field : fieldOr d "value" .null = .absent := by
    cases given : fieldOr d "value" .null with
    | absent => rfl
    | null => rw [given] at value; cases kind <;> cases value
    | _ => rw [given] at value; cases kind <;> cases value
  have isJson : d.isJson = true :=
    Value.isJson_of_areJson (Value.isJson_of_field json components) hd
  unfold fieldOr at field
  split at field
  · next w there =>
    rw [field] at there
    cases Value.isJson_of_field isJson there
  · cases field

/-- The outputs and the values of the components. -/
def shown (c : Circuit) : Table (Pins × Value) :=
  c.components.map fun x => (x.1, x.2.outputs, x.2.value)

/-- **Normal form**: a circuit that was loaded from a file is accepted when it is saved, and loading it
again gives the same document, with components and wires in the same order, and a circuit that shows
the same outputs and values in every run. -/
theorem reload_preserves {v : Value} (json : v.isJson = true)
    (accepted : Validation.document v = .ok ()) (read : ofDocument v = .ok c) :
    Validation.document c.toDocument = .ok () ∧ ∃ c', ofDocument c.toDocument = .ok c' ∧
      c'.toDocument = c.toDocument ∧ c'.components.keys = c.components.keys ∧ c'.wires = c.wires ∧
      ∀ (settings : EngineSettings) (e : Engine), Engine.start settings = .ok e →
        ∀ ticks, (e.run c' ticks).circuit.shown = (e.run c ticks).circuit.shown := by
  have reads : Reads v c := (ofDocument_eq_ok_iff accepted).1 read
  obtain ⟨sound, fresh⟩ := loaded accepted read
  have counters := (countersOf_eq_ok_iff.1 reads.counters).2
  have given := reads.value_ne_absent accepted json
  -- what is loaded again is the same circuit, so everything about it is the same
  exact ⟨Validation.document_accepted_of_sound sound, c,
    ofDocument_toDocument sound fresh counters given, rfl, rfl, rfl, fun _ _ _ _ => rfl⟩

/-- A document that leaves out what can be left out, and has fields of its own. -/
def sparseDocument : Value := .object [
  (.text "components", .list [
    .object [(.text "id", .text "A"), (.text "type", .text "Constant"), (.text "note", .null)],
    .object [(.text "id", .text "B"), (.text "type", .text "InputSelector"),
      (.text "settings", .object [(.text "wrapAround", .flag false), (.text "label", .text "x")])]]),
  (.text "wires", .list [
    .object [(.text "id", .int 7), (.text "from_id", .text "A"), (.text "from_pin", .text "VALUE_OUT"),
      (.text "to_id", .text "B"), (.text "to_pin", .text "SIGNAL_IN_0")]])]

theorem reload_preserves_sparseDocument :
    sparseDocument.isJson = true ∧ Validation.document sparseDocument = .ok () ∧
      ∃ c, ofDocument sparseDocument = .ok c ∧ Validation.document c.toDocument = .ok () ∧
        ∃ c', ofDocument c.toDocument = .ok c' ∧ c'.toDocument = c.toDocument ∧
          c'.components.keys = c.components.keys ∧ c'.wires = c.wires ∧
          ∀ (settings : EngineSettings) (e : Engine), Engine.start settings = .ok e →
            ∀ ticks, (e.run c' ticks).circuit.shown = (e.run c ticks).circuit.shown := by
  have json : sparseDocument.isJson = true := rfl
  have accepted : Validation.document sparseDocument = .ok () := rfl
  exact ⟨json, accepted, _, rfl, reload_preserves json accepted rfl⟩

end Circuit

end TickCircuit

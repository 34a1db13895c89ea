import TickCircuit.Proofs.Circuit.Acceptance

/-!
# Which Documents Are Refused

A document that breaks a rule is refused, with the rule as the reason. Before the check comes to a
rule it looks into the components and the wires, though, and takes their ids as keys. An entry that
has no fields, or a list or an object in the place of an id, ends it with another fault.

These are the only obstacles: where every entry is fit to be checked, the check accepts or refuses
(`document_onlyRefuses`).

## Combining steps

`OnlyRefuses` says of a step that it has no fault but a refusal. It holds of two steps when it holds
of the first and, on each of its results, of the second, so it is shown for the check in the order in
which the check is written down.
-/

namespace TickCircuit.Validation

/-! ## §1 Steps that Only Refuse -/

section Steps

variable {α β : Type}

/-- Every fault of the step is a refusal. -/
def OnlyRefuses (x : Except Fault α) : Prop :=
  ∀ e, x = .error e → ∃ d, e = .refused d

theorem OnlyRefuses.of_ok {x : Except Fault α} (h : ∃ a, x = .ok a) : OnlyRefuses x := by
  obtain ⟨a, rfl⟩ := h
  intro e h
  cases h

theorem OnlyRefuses.ok (a : α) : OnlyRefuses (.ok a : Except Fault α) := .of_ok ⟨a, rfl⟩

theorem OnlyRefuses.refused (d : Defect) : OnlyRefuses (.error (.refused d) : Except Fault α) := by
  intro e h
  cases h
  exact ⟨d, rfl⟩

theorem OnlyRefuses.bind {x : Except Fault α} {f : α → Except Fault β} (first : OnlyRefuses x)
    (second : ∀ a, x = .ok a → OnlyRefuses (f a)) : OnlyRefuses (x >>= f) := by
  cases x with
  | error e =>
    obtain ⟨d, rfl⟩ := first e rfl
    exact .refused d
  | ok a => exact second a rfl

/-- A step that only refuses succeeds or refuses. -/
theorem OnlyRefuses.eq_refused {x : Except Fault Unit} (h : OnlyRefuses x) (failed : x ≠ .ok ()) :
    ∃ d, x = .error (.refused d) := by
  cases x with
  | error e =>
    obtain ⟨d, rfl⟩ := h e rfl
    exact ⟨d, rfl⟩
  | ok a => exact absurd rfl failed

theorem require_onlyRefuses (holds : Bool) (defect : Defect) : OnlyRefuses (require holds defect) := by
  unfold require
  split
  · exact .ok ()
  · exact .refused defect

theorem listField_onlyRefuses (v : Value) (name : String) : OnlyRefuses (listField v name) := by
  unfold listField
  split
  · exact .ok _
  · exact .refused _

end Steps

/-! ## §2 Entries Fit to Be Checked -/

/-- An entry of a document that can be asked for its fields, that is an object if it mentions all of
`fields`, and that has no list and no object in the fields `ids`. -/
structure Checkable (fields ids : List String) (v : Value) : Prop where
  askable : v.isObject = true ∨ v.isList = true ∨ ∃ s, v = .text s
  object : (∀ name ∈ fields, v.mentions name = .ok true) → v.isObject = true
  keys : ∀ name ∈ ids, ∀ id, v.field name = .ok id → id.isKey = true

/-- Whatever a document lists as components and wires is fit to be checked. -/
structure CheckableDocument (v : Value) : Prop where
  components : ∀ cs, v.field "components" = .ok (.list cs) →
    ∀ c ∈ cs, Checkable componentFields ["id"] c
  wires : ∀ ws, v.field "wires" = .ok (.list ws) →
    ∀ w ∈ ws, Checkable wireFields ["from_id", "to_id"] w

section Entries

variable {fields ids : List String} {v : Value}

/-- An object whose ids are keys is fit to be checked. -/
theorem Checkable.of_isObject (object : v.isObject = true)
    (keys : ∀ name ∈ ids, ∀ id, v.field name = .ok id → id.isKey = true) :
    Checkable fields ids v :=
  ⟨.inl object, fun _ => object, keys⟩

theorem Checkable.exists_mentions (h : Checkable fields ids v) (name : String) :
    ∃ b, v.mentions name = .ok b := by
  obtain object | list | ⟨s, rfl⟩ := h.askable
  · cases v with
    | object es => exact ⟨_, rfl⟩
    | _ => cases object
  · cases v with
    | list xs => exact ⟨_, rfl⟩
    | _ => cases list
  · exact ⟨_, rfl⟩

theorem requireFields_onlyRefuses {defect : String → Defect} {names : List String}
    (answers : ∀ name, ∃ b, v.mentions name = .ok b) :
    OnlyRefuses (requireFields v defect names) := by
  induction names with
  | nil => exact .ok ()
  | cons name rest ih =>
    obtain ⟨b, mentions⟩ := answers name
    rw [requireFields, mentions]
    cases b with
    | true => exact ih
    | false => exact .refused _

/-- An entry that passed the check for its fields has them. -/
theorem Checkable.field (h : Checkable fields ids v) {defect : String → Defect}
    (present : requireFields v defect fields = .ok ()) : ∀ name ∈ fields, ∃ w, v.field name = .ok w :=
  field_of_requireFields (h.object (mentions_of_requireFields present)) present

end Entries

/-! ## §3 The Check -/

theorem settingsCheck_onlyRefuses (v id : Value) : OnlyRefuses (settingsCheck v id) := by
  unfold settingsCheck
  split
  · exact require_onlyRefuses _ _
  · exact .ok ()

/-- **Step**: a component that is fit to be checked is accepted or refused. -/
theorem component_onlyRefuses {v : Value} (h : Checkable componentFields ["id"] v) (seen : Seen)
    (place : Nat) : OnlyRefuses (component seen place v) := by
  rw [component_eq]
  refine .bind (requireFields_onlyRefuses h.exists_mentions) fun _ present => ?_
  refine .bind (.of_ok (h.field present "type" (by simp [componentFields]))) fun type _ => ?_
  refine .bind (.of_ok (h.field present "id" (by simp [componentFields]))) fun id idField => ?_
  split
  · exact .refused _
  · have isKey : id.isKey = true := h.keys "id" (by simp) id idField
    refine .bind (settingsCheck_onlyRefuses v id) fun _ _ => ?_
    refine .bind (.of_ok ⟨id, Value.asKey_of_isKey isKey⟩) fun key _ => ?_
    exact .bind (require_onlyRefuses _ _) fun _ _ => .ok _

/-- **Run**: components that are fit to be checked are accepted, or one of them is refused. -/
theorem components_onlyRefuses {cs : List Value}
    (h : ∀ c ∈ cs, Checkable componentFields ["id"] c) (seen : Seen) (place : Nat) :
    OnlyRefuses (components seen place cs) := by
  induction cs generalizing seen place with
  | nil => exact .ok seen
  | cons c rest ih =>
    obtain ⟨first, others⟩ := List.forall_mem_cons.1 h
    exact .bind (component_onlyRefuses first seen place) fun seen _ => ih others seen (place + 1)

theorem endOf_onlyRefuses {id : Value} (isKey : id.isKey = true) (seen : Seen) (place : Nat) :
    OnlyRefuses (endOf seen place id) := by
  unfold endOf
  rw [Value.asKey_of_isKey isKey]
  simp only [bind, Except.bind]
  split
  · exact .ok _
  · exact .refused _

/-- **Step**: a wire that is fit to be checked is accepted or refused. -/
theorem wire_onlyRefuses {v : Value} (h : Checkable wireFields ["from_id", "to_id"] v) (seen : Seen)
    (place : Nat) : OnlyRefuses (wire seen place v) := by
  refine .bind (requireFields_onlyRefuses h.exists_mentions) fun _ present => ?_
  refine .bind (.of_ok (h.field present "from_id" (by simp [wireFields]))) fun source found => ?_
  have isKey : source.isKey = true := h.keys "from_id" (by simp) source found
  refine .bind (endOf_onlyRefuses isKey seen place) fun _ _ => ?_
  refine .bind (.of_ok (h.field present "to_id" (by simp [wireFields]))) fun target found => ?_
  have isKey : target.isKey = true := h.keys "to_id" (by simp) target found
  refine .bind (endOf_onlyRefuses isKey seen place) fun _ _ => ?_
  refine .bind (.of_ok (h.field present "from_pin" (by simp [wireFields]))) fun _ _ => ?_
  refine .bind (.of_ok (h.field present "to_pin" (by simp [wireFields]))) fun _ _ => ?_
  exact .bind (require_onlyRefuses _ _) fun _ _ => require_onlyRefuses _ _

/-- **Run**: wires that are fit to be checked are accepted, or one of them is refused. -/
theorem wires_onlyRefuses {ws : List Value}
    (h : ∀ w ∈ ws, Checkable wireFields ["from_id", "to_id"] w) (seen : Seen) (place : Nat) :
    OnlyRefuses (wires seen place ws) := by
  induction ws generalizing place with
  | nil => exact .ok ()
  | cons w rest ih =>
    obtain ⟨first, others⟩ := List.forall_mem_cons.1 h
    exact .bind (wire_onlyRefuses first seen place) fun _ _ => ih others (place + 1)

/-- **Refusal**: a document whose entries are fit to be checked is accepted or refused. -/
theorem document_onlyRefuses {v : Value} (h : CheckableDocument v) : OnlyRefuses (document v) := by
  refine .bind (require_onlyRefuses _ _) fun _ _ => ?_
  refine .bind (listField_onlyRefuses v "components") fun cs componentList => ?_
  refine .bind (listField_onlyRefuses v "wires") fun ws wireList => ?_
  have checkable := h.components cs (listField_eq_ok.1 componentList)
  refine .bind (components_onlyRefuses checkable [] 1) fun seen _ => ?_
  exact wires_onlyRefuses (h.wires ws (listField_eq_ok.1 wireList)) seen 1

end TickCircuit.Validation

import TickCircuit.Circuit.Validation
import TickCircuit.Proofs.Component.Documents

/-!
# Which Documents Are Accepted

A document is well-formed when it lists components under keys that are all different, each with an id,
a kind and perhaps an object of settings, and wires that run from output pins to input pins of the
listed components. This is said without the order in which the check goes through the document and
without the table that it fills on the way. The check accepts exactly the well-formed documents
(`document_accepts_iff`).

## What the check collects

After the components, the table holds the id and the kind of each of them, in their order
(`components_ok_iff`). The wires are looked up there, and as the keys are different, looking up an id
finds the one component that is listed under it.
-/

namespace TickCircuit.Validation

open Outcome (bind_eq_ok)

/-! ## §1 Well-Formed Documents -/

/-- The value is an object that describes a component of a kind under an id. -/
structure DescribesComponent (v id : Value) (kind : Kind) : Prop where
  /-- The id is neither a list nor an object. -/
  scalar : id.isKey = true
  id : v.field "id" = .ok id
  type : v.field "type" = .ok (.text kind.name)
  settings : ∀ s, v.field "settings" = .ok s → s.isObject = true

/-- The ids of two descriptions are different keys. -/
def Apart (a b : Value) : Prop :=
  ∀ id id', a.field "id" = .ok id → b.field "id" = .ok id' → id.sameScalar id' = false

/-- The two fields of a value name a component of the list and one of the pins of its kind. -/
def EndsAt (components : List Value) (pins : Kind → List String) (idField pinField : String)
    (v : Value) : Prop :=
  ∃ id pin, v.field idField = .ok id ∧ v.field pinField = .ok (.text pin) ∧
    ∃ c ∈ components, ∃ id' kind, DescribesComponent c id' kind ∧ id'.sameScalar id = true ∧
      pin ∈ pins kind

/-- The value is an object that describes a wire between components of the list. -/
structure DescribesWire (components : List Value) (v : Value) : Prop where
  id : ∃ id, v.field "id" = .ok id
  source : EndsAt components Kind.outputPins "from_id" "from_pin" v
  target : EndsAt components Kind.inputPins "to_id" "to_pin" v

/-- The value is an object that describes a circuit. -/
def WellFormed (v : Value) : Prop :=
  ∃ components wires, v.field "components" = .ok (.list components) ∧
    v.field "wires" = .ok (.list wires) ∧
    (∀ c ∈ components, ∃ id kind, DescribesComponent c id kind) ∧
    components.Pairwise Apart ∧ ∀ w ∈ wires, DescribesWire components w

/-! ## §2 Fields -/

theorem isObject_of_field {v w : Value} {name : String} (h : v.field name = .ok w) :
    v.isObject = true := by
  cases v <;> first | rfl | cases h

/-- A value mentions the fields that it has. -/
theorem mentions_of_field {v w : Value} {name : String} (h : v.field name = .ok w) :
    v.mentions name = .ok true := by
  cases v with
  | object es =>
    simp only [Value.field] at h
    split at h
    · next found =>
      rw [Value.mentions, Table.contains, ← Table.get?, found]
      rfl
    · cases h
  | _ => cases h

theorem requireFields_ok {v : Value} {defect : String → Defect} :
    ∀ {names : List String}, (∀ name ∈ names, ∃ w, v.field name = .ok w) →
      requireFields v defect names = .ok ()
  | [], _ => rfl
  | name :: rest, h => by
    obtain ⟨⟨w, field⟩, others⟩ := List.forall_mem_cons.1 h
    rw [requireFields, mentions_of_field field]
    exact requireFields_ok others

/-- An object has the fields that it mentions. -/
theorem field_of_mentions {v : Value} {name : String} (isObject : v.isObject = true)
    (h : v.mentions name = .ok true) : ∃ w, v.field name = .ok w := by
  cases v with
  | object es =>
    have there := Except.ok.inj h
    rw [Table.contains, Option.isSome_iff_exists] at there
    obtain ⟨w, found⟩ := there
    exact ⟨w, by rw [Value.field, Table.get?, found]⟩
  | _ => cases isObject

theorem mentions_of_requireFields {v : Value} {defect : String → Defect} {names : List String}
    (h : requireFields v defect names = .ok ()) : ∀ name ∈ names, v.mentions name = .ok true := by
  induction names with
  | nil => simp
  | cons name rest ih =>
    obtain ⟨there, mentions, h⟩ := bind_eq_ok.1 h
    split at h
    · next isThere =>
      subst isThere
      exact List.forall_mem_cons.2 ⟨mentions, ih h⟩
    · cases h

/-- The fields that were required of an object are there. -/
theorem field_of_requireFields {v : Value} {defect : String → Defect} {names : List String}
    (isObject : v.isObject = true) (h : requireFields v defect names = .ok ()) :
    ∀ name ∈ names, ∃ w, v.field name = .ok w :=
  fun name member => field_of_mentions isObject (mentions_of_requireFields h name member)

theorem require_eq_ok {holds : Bool} {defect : Defect} :
    require holds defect = .ok () ↔ holds = true := by
  cases holds <;> simp [require]

/-- The names of pins are texts. -/
theorem any_isText {pins : List String} {v : Value} :
    (pins.any fun p => v.isText p) = true ↔ ∃ pin, v = .text pin ∧ pin ∈ pins := by
  rw [List.any_eq_true]
  constructor
  · rintro ⟨p, member, text⟩
    cases v with
    | text s => exact ⟨s, rfl, eq_of_beq text ▸ member⟩
    | _ => cases text
  · rintro ⟨pin, rfl, member⟩
    exact ⟨pin, member, beq_self_eq_true pin⟩

/-! ## §3 Components -/

/-- The check of the settings of a component. -/
def settingsCheck (v id : Value) : Except Fault Unit :=
  match v.field "settings" with
  | .ok settings => require settings.isObject (.settingsNotAnObject id)
  | .error _ => .ok ()

/-- The check of a component, with that of its settings as one step. -/
theorem component_eq (seen : Seen) (place : Nat) (v : Value) :
    component seen place v = (do
      requireFields v (.componentLacks place) componentFields
      let type ← v.field "type"
      let id ← v.field "id"
      match (ComponentType.ofValue type).kind? with
      | none => throw (.refused (.unknownType id type))
      | some kind =>
        settingsCheck v id
        let key ← id.asKey
        require (!seen.contains key) (.duplicateId id)
        return seen.insert key kind) := by
  unfold component settingsCheck
  refine bind_congr fun _ => bind_congr fun type => bind_congr fun id => ?_
  cases (ComponentType.ofValue type).kind? with
  | none => rfl
  | some kind => cases v.field "settings" <;> rfl

theorem settingsCheck_eq_ok {v id : Value} :
    settingsCheck v id = .ok () ↔ ∀ s, v.field "settings" = .ok s → s.isObject = true := by
  unfold settingsCheck
  cases v.field "settings" with
  | error e => simp
  | ok s => simp [require_eq_ok]

theorem DescribesComponent.id_eq {v id id' : Value} {kind : Kind} (h : DescribesComponent v id kind)
    (field : v.field "id" = .ok id') : id' = id := by
  rw [h.id] at field
  exact (Except.ok.inj field).symm

/-- **Step**: a component is accepted when it is described under a new id, and then it is added to
what has been seen. -/
theorem component_ok_iff {seen seen' : Seen} {place : Nat} {v : Value} :
    component seen place v = .ok seen' ↔
      ∃ id kind, DescribesComponent v id kind ∧ seen.contains id = false ∧
        seen' = seen ++ [(id, kind)] := by
  rw [component_eq]
  constructor
  · intro h
    obtain ⟨_, -, h⟩ := bind_eq_ok.1 h
    obtain ⟨type, typeField, h⟩ := bind_eq_ok.1 h
    obtain ⟨id, idField, h⟩ := bind_eq_ok.1 h
    split at h
    · cases h
    next kind known =>
    obtain ⟨_, settings, h⟩ := bind_eq_ok.1 h
    obtain ⟨key, asKey, h⟩ := bind_eq_ok.1 h
    obtain ⟨_, new, added⟩ := bind_eq_ok.1 h
    obtain ⟨isKey, rfl⟩ := Value.isKey_of_asKey asKey
    have new : seen.contains key = false := by simpa using require_eq_ok.1 new
    refine ⟨key, kind, ⟨isKey, idField, ?_, settingsCheck_eq_ok.1 settings⟩, new, ?_⟩
    · rw [typeField, ComponentType.kind?_ofValue.1 known]
    · rw [← Table.insert_of_not_contains kind new]
      exact (Except.ok.inj added).symm
  · rintro ⟨id, kind, described, new, rfl⟩
    have fields : requireFields v (.componentLacks place) componentFields = .ok () := by
      refine requireFields_ok ?_
      simp only [componentFields, List.forall_mem_cons, List.not_mem_nil, false_implies,
        implies_true, and_true]
      exact ⟨⟨_, described.id⟩, ⟨_, described.type⟩⟩
    have known : (ComponentType.ofValue (.text kind.name)).kind? = some kind :=
      ComponentType.kind?_ofValue.2 rfl
    have isNew : require (!seen.contains id) (.duplicateId id) = .ok () := by
      rw [require_eq_ok, new]
      rfl
    -- every step of the check has been shown to succeed
    rw [fields, described.type, described.id]
    simp only [bind, Except.bind, known, settingsCheck_eq_ok.2 described.settings,
      Value.asKey_of_isKey described.scalar, isNew]
    rw [← Table.insert_of_not_contains kind new]
    rfl

/-- The entries are the ids and the kinds of the components. -/
abbrev Lists (components : List Value) (entries : Seen) : Prop :=
  List.Forall₂ (fun c e => DescribesComponent c e.1 e.2) components entries

/-- **Run**: components are accepted when they are described under different ids that are new. -/
theorem components_ok_iff {seen seen' : Seen} {place : Nat} {cs : List Value} :
    components seen place cs = .ok seen' ↔
      ∃ entries, Lists cs entries ∧ (∀ e ∈ entries, seen.contains e.1 = false) ∧
        entries.Distinct ∧ seen' = seen ++ entries := by
  -- what has been seen grows along the list, so it is generalised together with the place
  induction cs generalizing seen place with
  | nil =>
    constructor
    · intro h
      cases h
      exact ⟨[], .nil, by simp, .nil, (List.append_nil _).symm⟩
    · rintro ⟨_, ⟨⟩, -, -, rfl⟩
      rw [List.append_nil]
      rfl
  | cons c rest ih =>
    -- an id is new behind one more component when it is new before it and differs from its id
    have contains_append (seen : Seen) (id : Value) (kind : Kind) (key : Value) :
        Table.contains (seen ++ [(id, kind)]) key = false ↔
          seen.contains key = false ∧ id.sameScalar key = false := by
      simp only [Table.contains_eq_false_iff, List.forall_mem_append, List.forall_mem_singleton]
    rw [components, bind_eq_ok]
    constructor
    · rintro ⟨_, first, others⟩
      obtain ⟨id, kind, described, new, rfl⟩ := component_ok_iff.1 first
      obtain ⟨entries, lists, allNew, distinct, rfl⟩ := ih.1 others
      refine ⟨(id, kind) :: entries, .cons described lists, ?_, ?_, ?_⟩
      · refine List.forall_mem_cons.2 ⟨new, fun e he => ?_⟩
        exact ((contains_append seen id kind e.1).1 (allNew e he)).1
      · refine List.pairwise_cons.2 ⟨fun e he => ?_, distinct⟩
        exact ((contains_append seen id kind e.1).1 (allNew e he)).2
      · rw [List.append_assoc]
        rfl
    · rintro ⟨_, ⟨⟩ | ⟨described, lists⟩, allNew, distinct, rfl⟩
      next e entries =>
      obtain ⟨new, othersNew⟩ := List.forall_mem_cons.1 allNew
      obtain ⟨differs, distinct⟩ := List.pairwise_cons.1 distinct
      refine ⟨seen ++ [e], component_ok_iff.2 ⟨e.1, e.2, described, new, rfl⟩, ih.2 ?_⟩
      refine ⟨entries, lists, fun e' he' => ?_, distinct, by simp⟩
      exact (contains_append seen e.1 e.2 e'.1).2 ⟨othersNew e' he', differs e' he'⟩

/-- Components that are described can be listed. -/
theorem exists_lists {cs : List Value} (h : ∀ c ∈ cs, ∃ id kind, DescribesComponent c id kind) :
    ∃ entries, Lists cs entries := by
  refine Outcome.exists_forall₂ fun c hc => ?_
  obtain ⟨id, kind, described⟩ := h c hc
  exact ⟨(id, kind), described⟩

theorem Lists.mem_iff {cs : List Value} {entries : Seen} (h : Lists cs entries) {id : Value}
    {kind : Kind} :
    (id, kind) ∈ entries ↔ ∃ c ∈ cs, DescribesComponent c id kind := by
  induction h with
  | nil => simp
  | @cons c e rest entries described _ ih =>
    rw [List.mem_cons, ih, List.exists_mem_cons_iff]
    refine or_congr ⟨?_, fun here => ?_⟩ Iff.rfl
    · rintro rfl
      exact described
    · -- a component is described in one way only
      have sameId := described.id_eq here.id
      have sameKind : kind.name = e.2.name := by
        have fields := here.type.symm.trans described.type
        exact Value.text.inj (Except.ok.inj fields)
      have kinds : some kind = some e.2 := by
        rw [← Kind.ofName?_name kind, sameKind, Kind.ofName?_name]
      exact Prod.ext sameId (Option.some.inj kinds)

theorem Lists.distinct_iff {cs : List Value} {entries : Seen} (h : Lists cs entries) :
    entries.Distinct ↔ cs.Pairwise Apart := by
  induction h with
  | nil => simp [Table.Distinct]
  | @cons c e rest entries described lists ih =>
    rw [Table.Distinct, List.pairwise_cons, List.pairwise_cons]
    refine and_congr ⟨?_, ?_⟩ ih
    · intro differs c' hc' id id' field field'
      -- the other component has an entry too, and its id is the one in the entry
      obtain ⟨e', he', described'⟩ := Outcome.exists_of_mem lists.flip hc'
      rw [described.id_eq field, described'.id_eq field']
      exact differs e' he'
    · intro apart e' he'
      obtain ⟨c', hc', described'⟩ := (Lists.mem_iff lists).1 he'
      exact apart c' hc' e.1 e'.1 described.id described'.id

/-! ## §4 Wires -/

section Wires

variable {cs : List Value} {entries : Seen} {place : Nat} {v : Value}

/-- The end of a wire is found when a component is listed under an id of the same form. -/
theorem endOf_ok_iff (lists : Lists cs entries) (distinct : entries.Distinct) {id : Value}
    {kind : Kind} :
    endOf entries place id = .ok kind ↔
      ∃ c ∈ cs, ∃ id', DescribesComponent c id' kind ∧ id'.sameScalar id = true := by
  -- the ids are different, so the first entry of the form is the only one
  have found : entries.find? id = some kind ↔
      ∃ c ∈ cs, ∃ id', DescribesComponent c id' kind ∧ id'.sameScalar id = true := by
    rw [Table.find?_eq_some_iff distinct]
    simp only [lists.mem_iff]
    constructor
    · rintro ⟨id', ⟨c, hc, described⟩, same⟩
      exact ⟨c, hc, id', described, same⟩
    · rintro ⟨c, hc, id', described, same⟩
      exact ⟨id', ⟨c, hc, described⟩, same⟩
  rw [← found]
  constructor
  · intro h
    obtain ⟨key, asKey, h⟩ := bind_eq_ok.1 h
    obtain ⟨-, rfl⟩ := Value.isKey_of_asKey asKey
    split at h
    · next there => rw [there, Except.ok.inj h]
    · cases h
  · intro there
    unfold endOf
    rw [Value.asKey_of_isKey (Table.isKey_of_find? there)]
    simp only [bind, Except.bind, there]
    rfl

/-- **Step**: a wire is accepted when it is described. -/
theorem wire_ok_iff (lists : Lists cs entries) (distinct : entries.Distinct) :
    wire entries place v = .ok () ↔ DescribesWire cs v := by
  constructor
  · intro h
    obtain ⟨_, fields, h⟩ := bind_eq_ok.1 h
    obtain ⟨source, sourceField, h⟩ := bind_eq_ok.1 h
    obtain ⟨sourceKind, sourceEnd, h⟩ := bind_eq_ok.1 h
    obtain ⟨target, targetField, h⟩ := bind_eq_ok.1 h
    obtain ⟨targetKind, targetEnd, h⟩ := bind_eq_ok.1 h
    obtain ⟨sourcePin, sourcePinField, h⟩ := bind_eq_ok.1 h
    obtain ⟨targetPin, targetPinField, h⟩ := bind_eq_ok.1 h
    obtain ⟨_, out, into⟩ := bind_eq_ok.1 h
    obtain ⟨c, hc, id', described, same⟩ := (endOf_ok_iff lists distinct).1 sourceEnd
    obtain ⟨pin, rfl, isPin⟩ := any_isText.1 (require_eq_ok.1 out)
    obtain ⟨d, hd, id'', described', same'⟩ := (endOf_ok_iff lists distinct).1 targetEnd
    obtain ⟨pin', rfl, isPin'⟩ := any_isText.1 (require_eq_ok.1 into)
    have hasId := field_of_requireFields (isObject_of_field sourceField) fields "id"
    exact ⟨hasId (by simp [wireFields]),
      ⟨source, pin, sourceField, sourcePinField, c, hc, id', sourceKind, described, same, isPin⟩,
      ⟨target, pin', targetField, targetPinField, d, hd, id'', targetKind, described', same',
        isPin'⟩⟩
  · rintro ⟨hasId, source, target⟩
    obtain ⟨id, pin, idField, pinField, c, hc, id', kind, described, same, isPin⟩ := source
    obtain ⟨other, pin', otherField, pinField', d, hd, other', kind', described', same', isPin'⟩ :=
      target
    have fields : requireFields v (.wireLacks place) wireFields = .ok () := by
      refine requireFields_ok ?_
      simp only [wireFields, List.forall_mem_cons, List.not_mem_nil, false_implies,
        implies_true, and_true]
      exact ⟨hasId, ⟨_, idField⟩, ⟨_, pinField⟩, ⟨_, otherField⟩, ⟨_, pinField'⟩⟩
    have sourceEnd : endOf entries place id = .ok kind :=
      (endOf_ok_iff lists distinct).2 ⟨c, hc, id', described, same⟩
    have targetEnd : endOf entries place other = .ok kind' :=
      (endOf_ok_iff lists distinct).2 ⟨d, hd, other', described', same'⟩
    have out : (ComponentType.known kind).hasOutputPin (.text pin) = true :=
      any_isText.2 ⟨pin, rfl, isPin⟩
    have into : (ComponentType.known kind').hasInputPin (.text pin') = true :=
      any_isText.2 ⟨pin', rfl, isPin'⟩
    -- every step of the check has been shown to succeed
    unfold wire
    rw [fields, idField, pinField, otherField, pinField']
    simp only [bind, Except.bind, sourceEnd, targetEnd, require_eq_ok.2 out, require_eq_ok.2 into]

/-- **Run**: wires are accepted when each of them is described. -/
theorem wires_ok_iff (lists : Lists cs entries) (distinct : entries.Distinct) {ws : List Value} :
    wires entries place ws = .ok () ↔ ∀ w ∈ ws, DescribesWire cs w := by
  induction ws generalizing place with
  | nil => exact iff_of_true rfl (by simp)
  | cons w rest ih =>
    rw [wires, bind_eq_ok, List.forall_mem_cons]
    simp only [wire_ok_iff lists distinct, exists_const, ih]

end Wires

/-! ## §5 Documents -/

theorem listField_eq_ok {v : Value} {name : String} {vs : List Value} :
    listField v name = .ok vs ↔ v.field name = .ok (.list vs) := by
  unfold listField
  constructor
  · intro h
    split at h
    · next found => rw [found, Except.ok.inj h]
    · cases h
  · intro h
    rw [h]

theorem wellFormed_of_accepted {v : Value} (h : document v = .ok ()) : WellFormed v := by
  obtain ⟨_, -, h⟩ := bind_eq_ok.1 h
  obtain ⟨cs, componentList, h⟩ := bind_eq_ok.1 h
  obtain ⟨ws, wireList, h⟩ := bind_eq_ok.1 h
  obtain ⟨seen, filled, h⟩ := bind_eq_ok.1 h
  obtain ⟨entries, lists, -, distinct, rfl⟩ := components_ok_iff.1 filled
  refine ⟨cs, ws, listField_eq_ok.1 componentList, listField_eq_ok.1 wireList, ?_,
    lists.distinct_iff.1 distinct, (wires_ok_iff lists distinct).1 h⟩
  intro c hc
  obtain ⟨e, -, described⟩ := Outcome.exists_of_mem lists.flip hc
  exact ⟨e.1, e.2, described⟩

theorem accepted_of_wellFormed {v : Value} (h : WellFormed v) : document v = .ok () := by
  obtain ⟨cs, ws, componentList, wireList, described, apart, connected⟩ := h
  obtain ⟨entries, lists⟩ := exists_lists described
  have distinct := lists.distinct_iff.2 apart
  have filled : components [] 1 cs = .ok entries :=
    components_ok_iff.2 ⟨entries, lists, fun _ _ => rfl, distinct, rfl⟩
  have isObject : require v.isObject .notAnObject = .ok () :=
    require_eq_ok.2 (isObject_of_field componentList)
  unfold document
  rw [isObject, listField_eq_ok.2 componentList, listField_eq_ok.2 wireList]
  simp only [bind, Except.bind, filled]
  exact (wires_ok_iff lists distinct).2 connected

/-- **Acceptance**: the accepted documents are the well-formed ones. -/
theorem document_accepts_iff (v : Value) : document v = .ok () ↔ WellFormed v := by
  constructor
  · exact wellFormed_of_accepted
  · exact accepted_of_wellFormed

/-- The keys `1` and `true` are equal, so no two components can be listed under them. -/
example : document (.object
    [(.text "components", .list [.object [(.text "id", .int 1), (.text "type", .text "Not")],
      .object [(.text "id", .flag true), (.text "type", .text "Not")]]),
      (.text "wires", .list [])]) = .error (.refused (.duplicateId (.flag true))) := by
  cbv

end TickCircuit.Validation

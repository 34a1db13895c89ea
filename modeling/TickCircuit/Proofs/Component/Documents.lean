import TickCircuit.Circuit.Basic
import TickCircuit.Proofs.Component.Fixture
import TickCircuit.Proofs.Outcome
import TickCircuit.Proofs.Value.Table

/-!
# Documents of Components

A component is read from its document with its own settings: these begin with the settings that its
type has by default, so putting them on top of the defaults changes nothing (`Covers.merge_eq`). It is
read with its own value as well, unless it carries a literal and has none; then the literal of its type
is read (`valueBack`). What is read back starts anew (`ofDocument_toDocument`), and a component that was
just created is read back unchanged (`Fresh.ofDocument_toDocument`).

Reading fails when no state can be started. That happens to a selector only, and only when the
connection that it is to select is an infinity (`Shape.initial_ok_iff`).
-/

namespace TickCircuit

/-! ## §1 Fields -/

theorem Kind.ofName?_name (kind : Kind) : ofName? kind.name = some kind := by
  cases kind <;> rfl

theorem ComponentType.ofValue_toValue (kind : Kind) :
    ComponentType.ofValue (ComponentType.known kind).toValue = .known kind := by
  rw [toValue, ofValue, Kind.ofName?_name]

/-- Only the name of a kind names it. -/
theorem ComponentType.kind?_ofValue {type : Value} {kind : Kind} :
    (ofValue type).kind? = some kind ↔ type = .text kind.name := by
  constructor
  · intro known
    cases type with
    | text name =>
      unfold ofValue at known
      dsimp only at known
      split at known
      · next k found =>
        -- the kind that is found under a name has this name
        cases Option.some.inj known
        have named := List.find?_some (p := fun k : Kind => k.name == name) found
        rw [eq_of_beq named]
      · cases known
    | _ => cases known
  · rintro rfl
    rw [ofValue, Kind.ofName?_name]
    rfl

/-- The type that a value names is named by it. -/
theorem ComponentType.toValue_ofValue (v : Value) : (ofValue v).toValue = v := by
  cases named : ofValue v with
  | known kind => exact (kind?_ofValue.1 (congrArg kind? named)).symm
  | foreign name =>
    unfold ofValue at named
    split at named
    · split at named
      · cases named
      · exact (foreign.inj named).symm
    · exact (foreign.inj named).symm

namespace Component

variable (x : Component)

theorem field_id : x.toDocument.field "id" = .ok x.id := rfl

theorem field_type : x.toDocument.field "type" = .ok x.type.toValue := rfl

theorem field_settings : x.toDocument.field "settings" = .ok (.object x.settings) := rfl

end Component

/-! ## §2 Settings -/

/-- A record whose fields have different names. -/
theorem Record.distinct_ofFields {fields : List (String × Value)}
    (names : (fields.map Prod.fst).Nodup) : Table.Distinct (Record.ofFields fields) := by
  unfold Table.Distinct ofFields
  rw [List.pairwise_map]
  refine (List.pairwise_map.1 names).imp fun differ => ?_
  rw [Bool.eq_false_iff]
  intro same
  exact differ (Value.text.inj (Value.text_sameScalar.1 same)).symm

theorem Record.ofFields_injective {fields fields' : List (String × Value)}
    (same : ofFields fields = ofFields fields') : fields = fields' := by
  refine List.map_injective_iff.2 ?_ same
  rintro ⟨name, v⟩ ⟨name', v'⟩ h
  obtain ⟨names, values⟩ := Prod.mk.inj h
  exact Prod.ext (Value.text.inj names) values

/-- The names of the default settings of a kind are different. -/
theorem Kind.nodup_defaultFields (k : Kind) : (k.defaultFields.map Prod.fst).Nodup := by
  cases k <;> decide

namespace ComponentType

/-- Settings that begin with those that components of the type have by default, under different
keys. -/
structure Covers (t : ComponentType) (settings : Record) : Prop where
  first : t.defaults.keys <+: settings.keys
  distinct : settings.Distinct

variable {t : ComponentType} {settings : Record}

theorem distinct_defaults (t : ComponentType) : t.defaults.Distinct := by
  cases t with
  | known k => exact Record.distinct_ofFields k.nodup_defaultFields
  | foreign name => exact List.Pairwise.nil

theorem isText_of_mem_defaults {key : Value} (h : key ∈ t.defaults.keys) : key.IsText := by
  cases t with
  | foreign name => cases h
  | known k =>
    obtain ⟨e, member, rfl⟩ := List.mem_map.1 h
    obtain ⟨field, -, rfl⟩ := List.mem_map.1 member
    exact ⟨field.1, rfl⟩

/-- The settings of a new component cover the defaults, whatever is put on top of these. -/
theorem covers_merge (t : ComponentType) (upper : Record) : t.Covers (t.defaults.merge upper) :=
  ⟨Table.keys_prefix_merge _ _, t.distinct_defaults.merge upper⟩

/-- Settings that cover the defaults hide them. -/
theorem Covers.merge_eq (h : t.Covers settings) : t.defaults.merge settings = settings := by
  refine Table.merge_of_keys_prefix h.distinct (fun key member => ?_) h.first
  obtain ⟨name, rfl⟩ := isText_of_mem_defaults member
  exact Value.text_sameScalar.2 rfl

theorem Covers.insert (h : t.Covers settings) (key v : Value) : t.Covers (settings.insert key v) :=
  ⟨h.first.trans (Table.keys_prefix_insert settings key v), h.distinct.insert key v⟩

theorem Covers.merge (h : t.Covers settings) (upper : Record) : t.Covers (settings.merge upper) :=
  ⟨h.first.trans (Table.keys_prefix_merge settings upper), h.distinct.merge upper⟩

theorem Covers.insertPairs (h : t.Covers settings) (place : Nat) (parts : List Value) :
    t.Covers (Value.insertPairs settings place parts).2 := by
  induction parts generalizing settings place with
  | nil => exact h
  | cons part rest ih =>
    rw [Value.insertPairs]
    split
    · exact h
    · split
      · exact ih (h.insert _ _) _
      · exact h
    · exact h

/-- Settings cover the defaults after a change, even one that breaks off. -/
theorem Covers.putOnto (h : t.Covers settings) (changes : Value) :
    t.Covers (changes.putOnto settings).2 := by
  unfold Value.putOnto
  split
  · exact h.merge _
  · split
    · exact h.insertPairs 0 _
    · exact h

end ComponentType

/-! ## §3 States -/

/-- The value is an infinity. -/
def Value.IsInfinite (v : Value) : Prop :=
  ∃ x s, v = .real x ∧ x.toModel.unpack = .infinity s

/-- The connection that the settings select is an infinity. -/
def Record.SelectsInfinity (settings : Record) : Prop :=
  (settings.setting "selectedConnection").IsInfinite

theorem Value.truthy_of_isInfinite {v : Value} (h : v.IsInfinite) : v.truthy = true := by
  obtain ⟨x, s, rfl, infinite⟩ := h
  -- it is compared with zero
  change (!(x.toModel.unpack.compare (.zero .positive) == some .eq)) = true
  rw [infinite]
  cases s <;> rfl

/-- As a key, an infinity has a form that no other value has. -/
theorem Value.isInfinite_iff_key? (v : Value) :
    v.IsInfinite ↔ v.key? = some (.number ⊤) ∨ v.key? = some (.number ⊥) := by
  have finite (n : ℤ) : ¬ (Exact.units n = ⊤ ∨ Exact.units n = ⊥) := by
    rintro (h | h)
    · exact WithTop.coe_ne_top (WithBot.coe_injective h)
    · exact WithBot.coe_ne_bot h
  have whole (n : ℤ) : ¬ (Exact.ofInt n = ⊤ ∨ Exact.ofInt n = ⊥) := finite _
  -- only a `Float` can be an infinity; all other numbers have finite keys
  cases v with
  | real x =>
    have form : (real x).key? = (Binary.exactOf x.toModel.unpack).map .number := rfl
    have infinite : (real x).IsInfinite ↔ ∃ s, x.toModel.unpack = .infinity s := by
      simp [IsInfinite]
    rw [form, infinite]
    cases x.toModel.unpack with
    | infinity s =>
      cases s with
      | positive => exact iff_of_true ⟨_, rfl⟩ (.inl rfl)
      | negative => exact iff_of_true ⟨_, rfl⟩ (.inr rfl)
    | notANumber =>
      exact iff_of_false (by rintro ⟨s, other⟩; cases other) (by rintro (h | h) <;> cases h)
    | zero s | finite s m e pos =>
      refine iff_of_false (by rintro ⟨s, other⟩; cases other) fun key => ?_
      exact finite _ (key.imp (fun h => Key.number.inj (Option.some.inj h))
        fun h => Key.number.inj (Option.some.inj h))
  | int n => simpa [IsInfinite, key?, number?, Number.exactValue?] using whole n
  | flag b => simpa [IsInfinite, key?, number?, Number.exactValue?] using whole _
  | _ => simp [IsInfinite, key?, number?]

/-- A value that equals an infinity is one. -/
theorem Value.isInfinite_of_same {v u : Value} (same : v.same u = true) (infinite : v.IsInfinite) :
    u.IsInfinite := by
  obtain ⟨x, s, rfl, unpacked⟩ := infinite
  rw [same_eq_sameScalar rfl] at same
  obtain ⟨k, form, form'⟩ := sameScalar_iff.1 same
  rw [isInfinite_iff_key?, form', ← form, ← isInfinite_iff_key?]
  exact ⟨x, s, rfl, unpacked⟩

/-- Only an infinity is out of the range of whole numbers. -/
theorem Value.toInt_range_iff (v : Value) :
    (∃ e, v.toInt = .error e ∧ e.kind = .range) ↔ v.IsInfinite := by
  unfold IsInfinite
  -- a NaN is a fault too, but of another kind
  cases v with
  | real x =>
    have nan : x.isNaN = x.toModel.unpack.isNaN := rfl
    have infinite : (∃ y s, real x = .real y ∧ y.toModel.unpack = .infinity s) ↔
        ∃ s, x.toModel.unpack = .infinity s := by simp
    rw [infinite]
    unfold toInt Binary.truncate?
    dsimp only
    rw [nan]
    cases x.toModel.unpack with
    | infinity s => exact iff_of_true ⟨_, rfl, rfl⟩ ⟨s, rfl⟩
    | _ =>
      constructor
      · rintro ⟨e, failed, range⟩
        cases failed <;> cases range
      · rintro ⟨s, other⟩
        cases other
  | text s =>
    simp only [toInt]
    cases Reading.int? s <;> simp [Fault.kind]
  | _ => simp [toInt, Fault.kind]

/-- Only an infinity is no number of a channel. -/
theorem initialChannel_ok_iff (settings : Record) :
    (∃ channel, initialChannel settings = .ok channel) ↔ ¬ settings.SelectsInfinity := by
  unfold initialChannel Record.SelectsInfinity
  generalize settings.setting "selectedConnection" = v
  have infinite : (orZero v).IsInfinite ↔ v.IsInfinite := by
    unfold orZero
    split
    · exact Iff.rfl
    · next falsy =>
      refine iff_of_false ?_ fun h => falsy (Value.truthy_of_isInfinite h)
      rintro ⟨x, s, isInt, -⟩
      cases isInt
  rw [← infinite, ← Value.toInt_range_iff]
  cases (orZero v).toInt with
  | ok n => simp
  | error e => cases h : e.kind <;> simp [h]

/-- Only a selector can fail to start. -/
theorem Shape.initial_ok_iff (shape : Shape) (settings : Record) :
    (∃ state, shape.initial settings = .ok state) ↔
      (shape = .selector → ¬ settings.SelectsInfinity) := by
  cases shape with
  | selector =>
    have starts : (Shape.selector.initial settings).isOk = (initialChannel settings).isOk := by
      change (do return ⟨← initialChannel settings, .absent⟩ : Except Fault Selection).isOk = _
      cases initialChannel settings <;> rfl
    rw [Outcome.exists_ok_congr starts, initialChannel_ok_iff]
    simp
  | _ => exact iff_of_true ⟨_, rfl⟩ (fun h => nomatch h)

/-! ## §4 Reading -/

/-- The literal of a type stands in for a value that is not there. -/
def ComponentType.literalFor (t : ComponentType) (v : Value) : Value :=
  match v, t.literal? with
  | .null, some literal => literal
  | v, _ => v

namespace Component

/-- What a component of a kind is created as. -/
theorem create_known (id : Value) (kind : Kind) (settings : Record) (value : Value) :
    create id (.text kind.name) settings value = (do
      let settings := kind.defaults.merge settings
      let state ← kind.shape.initial settings
      return ⟨id, .known kind, settings, (ComponentType.known kind).literalFor value, [], [], state⟩) := by
  have type : ComponentType.ofValue (.text kind.name) = .known kind :=
    ComponentType.ofValue_toValue kind
  unfold create
  rw [Value.asKey_text]
  simp only [bind, Except.bind]
  rw [type]
  rfl

/-- The settings in the document of a component. -/
def settingsIn (d : Value) : Record :=
  match d.field "settings" with
  | .ok (.object settings) => settings
  | _ => []

variable {c x : Component} {d id : Value} {kind : Kind}

/-- A document is read by creating what its fields say. -/
theorem ofDocument_known (idField : d.field "id" = .ok id)
    (typeField : d.field "type" = .ok (.text kind.name))
    (objects : ∀ s, d.field "settings" = .ok s → s.isObject = true) :
    ofDocument d =
      create id (.text kind.name) (settingsIn d) (Circuit.fieldOr d "value" .null) := by
  unfold ofDocument settingsIn
  rw [idField, typeField]
  cases settings : d.field "settings" with
  | error e => rfl
  | ok s =>
    have isObject := objects s settings
    cases s with
    | object entries => rfl
    | _ => cases isObject

/-- A component as it was created. -/
structure Fresh (c : Component) : Prop where
  known : ∃ kind, c.type = .known kind
  covers : c.type.Covers c.settings
  starts : c.type.shape.initial c.settings = .ok c.state
  inputs : c.inputs = []
  outputs : c.outputs = []
  value : c.type.literalFor c.value = c.value

theorem literalFor_idem (t : ComponentType) (v : Value) :
    t.literalFor (t.literalFor v) = t.literalFor v := by
  cases t with
  | foreign name => cases v <;> rfl
  | known kind => cases v <;> cases kind <;> rfl

/-- What is created of a known kind is fresh. -/
theorem create_fresh {settings : Record} {value : Value}
    (created : create id (.text kind.name) settings value = .ok x) :
    x.id = id ∧ x.type = .known kind ∧ x.Fresh ∧
      x.value = (ComponentType.known kind).literalFor value := by
  rw [create_known] at created
  obtain ⟨state, starts, made⟩ := Outcome.bind_eq_ok.1 created
  cases made
  exact ⟨rfl, rfl, {
    known := ⟨kind, rfl⟩
    covers := (ComponentType.known kind).covers_merge settings
    starts := starts
    inputs := rfl
    outputs := rfl
    value := literalFor_idem _ value }, rfl⟩

/-- A component of a kind can be created unless it is a selector that selects an infinity. -/
theorem create_ok_iff (id : Value) (kind : Kind) (settings : Record) (value : Value) :
    (∃ x, create id (.text kind.name) settings value = .ok x) ↔
      (kind.shape = .selector → ¬ Record.SelectsInfinity (kind.defaults.merge settings)) := by
  rw [create_known, ← Shape.initial_ok_iff]
  refine Outcome.exists_ok_congr ?_
  dsimp only
  cases kind.shape.initial (kind.defaults.merge settings) <;> rfl

/-! ## §5 Reading Back -/

/-- The value with which a component is read back. -/
def valueBack (c : Component) : Value :=
  match c.value with
  | .absent => c.type.literalFor .null
  | v => c.type.literalFor v

/-- A component of a known type is read back as it starts, with its settings and its value. -/
theorem ofDocument_toDocument (known : ∃ kind, c.type = .known kind)
    (covers : c.type.Covers c.settings) :
    ofDocument c.toDocument = (do
      let state ← c.type.shape.initial c.settings
      return { c with value := c.valueBack, inputs := [], outputs := [], state }) := by
  obtain ⟨kind, known⟩ := known
  have value : c.type.literalFor (Circuit.fieldOr c.toDocument "value" .null) = c.valueBack := by
    unfold valueBack
    cases h : c.value <;> simp [Circuit.fieldOr, toDocument, valueField, h] <;> rfl
  have type : c.toDocument.field "type" = .ok (.text kind.name) := by
    rw [field_type, known]
    rfl
  have object (s : Value) (h : c.toDocument.field "settings" = .ok s) : s.isObject = true := by
    rw [field_settings] at h
    cases h
    rfl
  have own : settingsIn c.toDocument = c.settings := rfl
  rw [ofDocument_known c.field_id type object, create_known, own]
  -- only now the type is taken apart, for the state depends on it
  obtain ⟨id, type, settings, _, _, _, _⟩ := c
  cases known
  dsimp only at covers value ⊢
  have hidden : kind.defaults.merge settings = settings := covers.merge_eq
  rw [hidden, value]

/-- A fresh component is read back as it is, unless its value is explicitly nothing. -/
theorem Fresh.ofDocument_toDocument (fresh : c.Fresh) (given : c.value ≠ .absent) :
    ofDocument c.toDocument = .ok c := by
  have value : c.valueBack = c.value := by
    unfold valueBack
    split
    · next none => exact absurd none given
    · exact fresh.value
  rw [Component.ofDocument_toDocument fresh.known fresh.covers, fresh.starts, value]
  obtain ⟨id, type, settings, value, inputs, outputs, state⟩ := c
  have noInputs : inputs = [] := fresh.inputs
  have noOutputs : outputs = [] := fresh.outputs
  rw [noInputs, noOutputs]
  rfl

/-- A value is written back as it was, unless the literal of the type stands in for it. -/
theorem valueField_valueBack_iff (c : Component) :
    valueField c.valueBack = valueField c.value ↔
      (c.type = .known .constant → c.value ≠ .null ∧ c.value ≠ .absent) := by
  unfold valueBack
  generalize c.type = t
  have none (v : Value) (h : t ≠ .known .constant) : t.literalFor v = v := by
    cases t with
    | foreign name => cases v <;> rfl
    | known kind =>
      cases kind with
      | constant => exact absurd rfl h
      | _ => cases v <;> rfl
  by_cases constant : t = .known .constant
  · subst constant
    cases c.value <;> simp [ComponentType.literalFor, ComponentType.literal?, Kind.literal?, valueField]
  · cases c.value <;> simp [none, constant, valueField]

/-- A component is written again as it was, after it has been read back. -/
theorem toDocument_of_readBack (known : ∃ kind, c.type = .known kind)
    (covers : c.type.Covers c.settings) (read : ofDocument c.toDocument = .ok x) :
    x.id = c.id ∧ x.type = c.type ∧ (x.toDocument = c.toDocument ↔
      (c.type = .known .constant → c.value ≠ .null ∧ c.value ≠ .absent)) := by
  rw [ofDocument_toDocument known covers] at read
  obtain ⟨state, -, made⟩ := Outcome.bind_eq_ok.1 read
  cases made
  refine ⟨rfl, rfl, ?_⟩
  rw [← valueField_valueBack_iff, toDocument, toDocument]
  constructor
  · intro same
    exact List.append_cancel_left (Record.ofFields_injective (Value.object.inj same))
  · intro same
    rw [same]

end Component

end TickCircuit

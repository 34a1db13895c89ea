import TickCircuit.Proofs.Session.Following
import TickCircuit.Proofs.Session.Saving

/-!
# New Settings in a Session

New settings are put on top of the old ones, and nothing but the component that they are for is
changed. It goes on as it was, unless it has a state and one of the settings is changed from which
states start (`Record.Reseeds`). Then it is a component that has just been created with its id, its
type and its new settings (`Component.Overridden`).

That setting a component back creates it anew depends on how it has come about: its type is one that
can be named, and its settings cover the defaults of the type (`Recreatable`). Both are so of created
components and stay so in every session (`performAll_recreatable`), also where new settings have ended
in a fault.

A call that returns has told every observer of the change exactly once (`told_of_returned`).
-/

namespace TickCircuit

/-! ## §1 Settings from Which States Start -/

/-- The changes give a setting from which states start a value that is not equal to its old one. A
setting that is missing counts as null. -/
def Record.Reseeds (settings changes : Record) : Prop :=
  ∃ name ∈ ["isOn", "value", "selectedConnection", "color"], ∃ v,
    Table.get? changes name = some v ∧ v.same (settings.setting name) = false

/-- Changes that come as an object can be compared, name by name. -/
theorem Circuit.changesAny_object (settings changes : Record) (names : List String) :
    changesAny settings (.object changes) names = .ok (names.any fun name =>
      (Table.get? changes name).any fun v => !v.same (settings.setting name)) := by
  induction names with
  | nil => rfl
  | cons name rest ih =>
    have mentions : (Value.object changes).mentions name =
        .ok (Table.get? changes name).isSome := rfl
    rw [changesAny, List.any_cons, ih, mentions]
    cases found : Table.get? changes name with
    | none => rfl
    | some v =>
      rw [Value.field, found]
      cases same : v.same (settings.setting name) with
      | true => simp [bind, Except.bind, same]
      | false => simp [bind, Except.bind, same, pure, Except.pure]

theorem Record.reseeds_iff {settings changes : Record} :
    settings.Reseeds changes ↔
      Circuit.changesAny settings (.object changes) Circuit.seedSettings = .ok true := by
  simp [Reseeds, Circuit.seedSettings, Circuit.changesAny_object, Option.any_eq_true]

/-! ## §2 Components -/

namespace Component

/-- The component can be created anew: its type is what a value names, and its settings begin with the
defaults of the type. -/
structure Recreatable (c : Component) : Prop where
  key : c.type.toValue.isKey = true
  type : ComponentType.ofValue c.type.toValue = c.type
  covers : c.type.Covers c.settings

variable {c x old new : Component} {changes : Record}

/-- A component that is set back is the one that is created with its id, its type and its settings,
unless a literal stays. -/
theorem Recreatable.reset_eq_create (h : c.Recreatable) (noLiteral : c.type.literal? = none) :
    c.reset = create c.id c.type.toValue c.settings .null := by
  obtain ⟨id, type, settings, value, inputs, outputs, state⟩ := c
  obtain ⟨key, sameType, covers⟩ := h
  dsimp only at *
  unfold create reset
  rw [Value.asKey_of_isKey key]
  simp only [bind, Except.bind]
  -- the defaults of the type are hidden by settings that cover them
  rw [sameType, covers.merge_eq, noLiteral]
  rfl

/-- A component that is set back has no signals, and no value unless a literal stays. -/
theorem reset_empties (noLiteral : c.type.literal? = none) (isReset : c.reset = .ok x) :
    x.inputs = [] ∧ x.outputs = [] ∧ x.value = .null := by
  unfold reset at isReset
  obtain ⟨state, -, isReset⟩ := Outcome.bind_eq_ok.1 isReset
  cases isReset
  exact ⟨rfl, rfl, by rw [noLiteral]; rfl⟩

/-- Only the type and the settings count. -/
theorem Recreatable.of_fixture (h : c.Recreatable) (same : x.fixture = c.fixture) :
    x.Recreatable := by
  obtain ⟨-, type, settings, -⟩ := Fixture.mk.inj same
  constructor
  · rw [type]
    exact h.key
  · rw [type]
    exact h.type
  · rw [type, settings]
    exact h.covers

theorem create_recreatable {id type value : Value} {settings : Record}
    (created : create id type settings value = .ok x) : x.Recreatable := by
  unfold create at created
  obtain ⟨key, asKey, created⟩ := Outcome.bind_eq_ok.1 created
  obtain ⟨state, -, created⟩ := Outcome.bind_eq_ok.1 created
  cases created
  obtain ⟨isKey, rfl⟩ := Value.isKey_of_asKey asKey
  constructor
  · rw [ComponentType.toValue_ofValue]
    exact isKey
  · rw [ComponentType.toValue_ofValue]
  · exact ComponentType.covers_merge _ settings

/-- However new settings end, the component can be created anew. -/
theorem resettled_recreatable (h : old.Recreatable) {changes : Value} {result : Except Fault Unit}
    (left : old.Resettled changes result new) : new.Recreatable := by
  -- what has been put on top before a fault stays there, and the defaults stay covered
  have changed : (old.changed changes).Recreatable := ⟨h.key, h.type, h.covers.putOnto changes⟩
  cases left with
  | brokenOff | stuck | kept => exact changed
  | restarted isReset => exact changed.of_fixture (reset_fixture isReset)

end Component

/-! ## §3 Sessions -/

/-- **Step**: every edit leaves components that can be created anew. -/
theorem Edit.recreatable {c : Circuit} (h : c.Every Component.Recreatable) (edit : Edit) :
    (edit.apply c).circuit.Every Component.Recreatable := by
  refine h.edit edit fun x made => ?_
  cases edit with
  | addComponent type settings id =>
    obtain ⟨_, _, created⟩ := made
    exact Component.create_recreatable created
  | updateSettings id changes =>
    obtain ⟨old, ended, found, left, -⟩ := made
    exact Component.resettled_recreatable (h.found found) left
  | updateValue id value =>
    obtain ⟨old, found, rfl⟩ := made
    have before : old.Recreatable := h.found found
    exact ⟨before.key, before.type, before.covers⟩
  | press id isPressed =>
    obtain ⟨old, found, done⟩ := made
    exact (h.found found).of_fixture (Component.pressed_fixture done)
  | removeComponent | connect | disconnect | clear => exact False.elim made

/-- **Step**: so do ticks and resets, which leave the types and the settings alone. -/
theorem Bench.undergo_recreatable {b : Bench} (h : b.circuit.Every Component.Recreatable) (d : Deed) :
    (b.undergo d).circuit.Every Component.Recreatable :=
  h.undergo (fun _ _ same h => h.of_fixture same) fun e _ => e.recreatable h

/-- **Run**: so does everything that is done with an engine and the circuit. -/
theorem Bench.after_recreatable {b : Bench} (h : b.circuit.Every Component.Recreatable)
    (deeds : List Deed) : (b.after deeds).circuit.Every Component.Recreatable :=
  after_invariant (p := fun b => b.circuit.Every Component.Recreatable)
    (fun _ d h => undergo_recreatable h d) h deeds

/-- **Sessions**: whatever is called on a session, its components can be created anew. -/
theorem Session.performAll_recreatable {s : Session} (h : s.circuit.Every Component.Recreatable)
    (calls : List Call) : (s.performAll calls).circuit.Every Component.Recreatable :=
  performAll_keeps (p := fun b => b.circuit.Every Component.Recreatable) Bench.after_recreatable h
    calls

/-! ## §4 New Settings -/

/-- Only stateless components have a literal. -/
theorem ComponentType.literal?_eq_none {t : ComponentType} (stateful : t.shape ≠ .stateless) :
    t.literal? = none := by
  cases t with
  | foreign name => rfl
  | known kind =>
    cases kind with
    | constant => exact absurd rfl stateful
    | _ => rfl

namespace Component

variable {old new : Component} {changes : Record}

/-- What becomes of a component by new settings. -/
structure Overridden (old : Component) (changes : Record) (new : Component) : Prop where
  same : new.id = old.id ∧ new.type = old.type
  settings : new.settings = old.settings.merge changes
  /-- What the changes say comes first. -/
  setting : ∀ key, new.settings.find? key = (Table.find? changes key).or (old.settings.find? key)
  kept : ¬ old.settings.Reseeds changes ∨ old.type.shape = .stateless →
    new = { old with settings := new.settings }
  restarted : old.settings.Reseeds changes → old.type.shape ≠ .stateless →
    create old.id old.type.toValue new.settings .null = .ok new ∧
      new.inputs = [] ∧ new.outputs = [] ∧ new.value = .null

theorem overridden_of_kept (distinct : changes.Distinct)
    (stays : ¬ old.settings.Reseeds changes ∨ old.type.shape = .stateless) :
    old.Overridden changes (old.changed (.object changes)) where
  same := ⟨rfl, rfl⟩
  settings := rfl
  setting := Table.find?_merge old.settings distinct
  kept _ := rfl
  restarted reseeds stateful := absurd stays (not_or.2 ⟨not_not.2 reseeds, stateful⟩)

theorem overridden_of_restarted (h : old.Recreatable) (distinct : changes.Distinct)
    (reseeds : old.settings.Reseeds changes) (stateful : old.type.shape ≠ .stateless)
    (isReset : (old.changed (.object changes)).reset = .ok new) : old.Overridden changes new := by
  obtain ⟨id, type, settings, -⟩ := Fixture.mk.inj (reset_fixture isReset)
  have noLiteral : (old.changed (.object changes)).type.literal? = none :=
    ComponentType.literal?_eq_none stateful
  have changed : (old.changed (.object changes)).Recreatable := ⟨h.key, h.type, h.covers.merge changes⟩
  refine ⟨⟨id, type⟩, settings, fun key => ?_, fun stays => ?_,
    fun _ _ => ⟨?_, reset_empties noLiteral isReset⟩⟩
  · rw [settings]
    exact Table.find?_merge old.settings distinct key
  · exact absurd stays (not_or.2 ⟨not_not.2 reseeds, stateful⟩)
  · rw [settings, ← isReset]
    exact (changed.reset_eq_create noLiteral).symm

end Component

/-- Another component is under an id, and everything else is as it was. -/
structure Circuit.Swaps (c : Circuit) (id : Value) (old new : Component) (c' : Circuit) : Prop where
  there : c'.find? id = .ok (some new)
  components : ∃ front key behind, c.components = front ++ (key, old) :: behind ∧
    c'.components = front ++ (key, new) :: behind
  wires : c'.wires = c.wires
  counters : c'.counters = c.counters
  wireCounter : c'.wireCounter = c.wireCounter

namespace Circuit

variable {c : Circuit} {id : Value} {old : Component} {changes : Record}

theorem replace_swaps (found : c.find? id = .ok (some old)) (new : Component) :
    c.Swaps id old new (c.replace id new) := by
  obtain ⟨isKey, found⟩ := find?_of_ok found
  obtain ⟨front, key, behind, split, replaced, there⟩ := Table.exists_modify_const found new
  refine ⟨?_, ⟨front, key, behind, split, replaced⟩, rfl, rfl, rfl⟩
  unfold Circuit.find?
  rw [Value.asKey_of_isKey isKey]
  exact congrArg Except.ok there

/-- New settings that are put on top of the old ones without a fault override them, and one event is
announced. -/
theorem updateSettings_of_ok (found : c.find? id = .ok (some old)) (h : old.Recreatable)
    (distinct : changes.Distinct) (done : (c.updateSettings id (.object changes)).result = .ok ()) :
    ∃ new, old.Overridden changes new ∧ c.updateSettings id (.object changes) =
      .done (c.replace id new) () [.settingsChanged old.id] := by
  obtain ⟨changed, compared⟩ :
      ∃ changed, changesAny old.settings (.object changes) seedSettings = .ok changed :=
    ⟨_, changesAny_object old.settings changes seedSettings⟩
  have reseeds : old.settings.Reseeds changes ↔ changed = true := by
    rw [Record.reseeds_iff, compared, Except.ok.injEq]
  have put : (Value.object changes).putOnto old.settings =
      (.ok (), old.settings.merge changes) := rfl
  unfold updateSettings at done ⊢
  simp only [found, compared, put] at done ⊢
  split at done
  · next restarts =>
    rw [if_pos restarts]
    rw [Bool.and_eq_true, bne_iff_ne, ← reseeds] at restarts
    -- without a fault the component has been set back
    split at done
    · cases done
    · next fresh isReset =>
      exact ⟨fresh, Component.overridden_of_restarted h distinct restarts.1 restarts.2 isReset, rfl⟩
  · next stays =>
    rw [if_neg stays]
    rw [Bool.and_eq_true, bne_iff_ne, ← reseeds, not_and_or, not_not] at stays
    exact ⟨_, Component.overridden_of_kept distinct stays, rfl⟩

end Circuit

/-! ## §5 Calls That Return -/

namespace Session

variable {s t : Session} {observers : List Observer}

/-- Among these observers all that the action does when it returns is to give the notices. -/
def Gives (observers : List Observer) (a : Action Unit) (notices : List Notice) : Prop :=
  ∀ s t, s.observers = observers → a.run.run s = (.ok (), t) → Told notices s t

theorem Gives.bind {a b : Action Unit} {notices more : List Notice}
    (first : Gives observers a notices) (second : Gives observers b more) :
    Gives observers (a >>= fun _ => b) (notices ++ more) := by
  intro s u here returned
  rw [run_bind] at returned
  cases ran : a.run.run s with
  | mk result t =>
    rw [ran] at returned
    cases result with
    | error e => cases returned
    | ok _ =>
      have told := first s t here ran
      exact told.trans (second t u (told.observers.trans here) returned)

theorem Gives.forM {α : Type} {f : α → Action Unit} {notices : α → List Notice}
    (each : ∀ x, Gives observers (f x) (notices x)) (xs : List α) :
    Gives observers (xs.forM f) (xs.flatMap notices) := by
  induction xs with
  | nil =>
    rintro s t - ⟨⟩
    exact .refl s
  | cons x rest ih => exact (each x).bind ih

/-- Where an action goes on, an observer has been told, whether or not they have failed. -/
theorem tell_gives (event : Event) (o : Observer) :
    Gives observers (tell event o) [⟨o.name, event⟩] := by
  -- the notice is given first, and the failure that may follow does not take it back
  have given : Gives observers (modify fun s : Session => { s with
      trace := { s.trace with notices := s.trace.notices ++ [⟨o.name, event⟩] } }) [⟨o.name, event⟩] := by
    rintro s t - ⟨⟩
    exact ⟨rfl, rfl, rfl⟩
  refine given.bind (show Gives observers _ [] from ?_)
  cases o.failure with
  | none =>
    rintro s t - ⟨⟩
    exact .refl s
  | some kind =>
    dsimp only
    split
    · rintro s t - ⟨⟩
      exact ⟨rfl, rfl, (List.append_nil _).symm⟩
    · rintro s t - ⟨⟩

theorem announce_gives (event : Event) :
    Gives observers (announce event) (noticesOf observers event) := by
  rintro s t rfl returned
  have told := Gives.forM (tell_gives event) s.observers s t rfl returned
  rw [noticesOf, List.map_eq_flatMap]
  exact told

/-- A call for an edit that returns has carried out the edit without a fault and has told all observers
of all its events. -/
theorem told_of_returned {e : Edit} (returned : (Call.edit e).action.run.run s = (.ok (), t)) :
    (∃ r, (e.apply s.circuit).result = .ok r) ∧
      Told ((e.apply s.circuit).events.flatMap (noticesOf s.observers))
        { s with circuit := (e.apply s.circuit).circuit } t := by
  let changed := { s with circuit := (e.apply s.circuit).circuit }
  change ((do (e.apply s.circuit).events.forM announce; (e.apply s.circuit).result : Action Value)
    >>= fun _ => pure ()).run.run changed = _ at returned
  rw [run_bind, run_bind] at returned
  cases ran : ((e.apply s.circuit).events.forM announce).run.run changed with
  | mk result u =>
    rw [ran] at returned
    cases result with
    | error fault => cases returned
    | ok _ =>
      have told := Gives.forM announce_gives (e.apply s.circuit).events changed u rfl ran
      cases result : (e.apply s.circuit).result with
      | error fault =>
        rw [result] at returned
        cases returned
      | ok r =>
        rw [result] at returned
        cases returned
        exact ⟨⟨r, rfl⟩, told⟩

/-- **New settings**: whatever has been called on a session that begins with the empty circuit or with
one that was read, a call that gives a component new settings and returns overrides the old settings.
The component is created anew if it has a state and one of the settings is changed from which states
start, and otherwise goes on as it was. All else is left alone, and every observer is told of the change
exactly once. -/
theorem settings_overridden {c : Circuit} (begins : c = .empty ∨ ∃ v, Circuit.ofDocument v = .ok c)
    (engine : Engine) (observers : List Observer) (calls : List Call) {id : Value} {old : Component}
    {changes : Record} (distinct : changes.Distinct) {t : Session} :
    let s := (start c engine observers).performAll calls
    s.circuit.find? id = .ok (some old) →
    (Call.edit (.updateSettings id (.object changes))).action.run.run s = (.ok (), t) →
      ∃ new, old.Overridden changes new ∧ s.circuit.Swaps id old new t.circuit ∧
        t.engine = s.engine ∧
          t.trace.notices = s.trace.notices ++ noticesOf s.observers (.settingsChanged old.id) := by
  intro s found returned
  have start : c.Every Component.Recreatable := by
    rcases begins with rfl | ⟨v, read⟩
    · exact fun _ inside => nomatch inside
    · exact Circuit.every_ofDocument
        (fun _ _ _ _ _ created => Component.create_recreatable created) read
  have recreatable : old.Recreatable :=
    (performAll_recreatable (s := .start c engine observers) start calls).found found
  obtain ⟨⟨r, succeeded⟩, told⟩ := told_of_returned returned
  have done : (s.circuit.updateSettings id (.object changes)).result = .ok () := by
    cases result : (s.circuit.updateSettings id (.object changes)).result with
    | ok _ => rfl
    | error e =>
      rw [Edit.apply, Edited.noResult, result] at succeeded
      cases succeeded
  obtain ⟨new, overridden, updated⟩ := Circuit.updateSettings_of_ok found recreatable distinct done
  have engine : t.engine = s.engine := by
    have left : t = s.perform (.edit (.updateSettings id (.object changes))) :=
      (congrArg Prod.snd returned).symm
    rw [left]
    exact (perform_edit s _).2
  rw [Edit.apply, updated] at told
  refine ⟨new, overridden, ?_, engine, ?_⟩
  · rw [told.circuit]
    exact Circuit.replace_swaps found new
  · rw [told.notices]
    exact congrArg _ (List.append_nil _)

/-- A relay is added and connected to a constant, and everything is run for a tick. -/
def relayCalls : List Call := [
  .edit (.addComponent (.text "Relay") .null .null),
  .edit (.addComponent (.text "Constant") .null .null),
  .edit (.connect (.text "Constant1") (.text "VALUE_OUT") (.text "Relay1") (.text "TOGGLE_STATE")),
  .step]

/-- The relay is switched on by its settings and gets a label. -/
def switchedOn : Record := Record.ofFields [("isOn", .flag true), ("label", .text "main")]

theorem settings_overridden_of_relay :
    let s := (start .empty Engine.standardStart viewAndRecorder).performAll relayCalls
    let call : Call := .edit (.updateSettings (.text "Relay1") (.object switchedOn))
    switchedOn.Distinct ∧ ∃ old t, s.circuit.find? (.text "Relay1") = .ok (some old) ∧
      call.action.run.run s = (.ok (), t) ∧
        (old.settings.Reseeds switchedOn ∧ old.type.shape ≠ .stateless) ∧
          ∃ new, old.Overridden switchedOn new ∧ s.circuit.Swaps (.text "Relay1") old new t.circuit ∧
            t.engine = s.engine ∧ t.trace.notices =
              s.trace.notices ++ noticesOf s.observers (.settingsChanged old.id) := by
  intro s call
  have distinct : switchedOn.Distinct := Record.distinct_ofFields (by decide)
  refine ⟨distinct, _, _, rfl, rfl, ⟨?_, ?_⟩,
    settings_overridden (.inl rfl) Engine.standardStart viewAndRecorder relayCalls distinct rfl rfl⟩
  · exact ⟨"isOn", by decide, .flag true, rfl, rfl⟩
  · exact nofun

end Session

end TickCircuit

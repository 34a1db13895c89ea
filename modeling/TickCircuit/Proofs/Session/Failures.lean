import TickCircuit.Proofs.Session.Calls

/-!
# Edits That Fail

As long as observers fail in ways that are only logged, telling them does not fail
(`announce_completes`), so an edit fails in a session when the edit of the circuit does (`edit_error`).
That announces nothing, and nearly always it leaves the circuit as it was (`Edit.begun`): what is
refused is refused before anything is done.

Two edits can fail after they have begun (`Edit.BreaksOff`). A component without an id of its own gets
one before it is created, so the counter of its type has counted on when its settings are found to be
none. And new settings are put on top of the old ones before the component starts again. All that a
failed edit leaves behind is a counter that has counted on, or settings of one component
(`Circuit.Begun`).
-/

namespace TickCircuit

/-! ## §1 Observers That Are Tolerated -/

namespace Session

/-- All observers fail, if they do, in ways that are only logged. -/
def Tolerant (s : Session) : Prop :=
  ∀ o ∈ s.observers, ∀ kind, o.failure = some kind → isTolerated kind = true

/-- The action does not fail, and observers are tolerated as before. -/
def Completes (a : Action Unit) : Prop :=
  ∀ s, s.Tolerant → ∃ t, a.run.run s = (.ok (), t) ∧ t.Tolerant

theorem Completes.bind {a b : Action Unit} (first : Completes a) (second : Completes b) :
    Completes (a >>= fun _ => b) := by
  intro s tolerant
  obtain ⟨t, run, tolerant'⟩ := first s tolerant
  obtain ⟨u, run', tolerant''⟩ := second t tolerant'
  refine ⟨u, ?_, tolerant''⟩
  rw [run_bind, run]
  exact run'

theorem Completes.forM {β : Type} {f : β → Action Unit} {xs : List β}
    (h : ∀ x ∈ xs, Completes (f x)) : Completes (xs.forM f) := by
  induction xs with
  | nil => exact fun s tolerant => ⟨s, rfl, tolerant⟩
  | cons x rest ih =>
    obtain ⟨first, others⟩ := List.forall_mem_cons.1 h
    exact first.bind (ih others)

/-- Telling an observer does not fail when its failures are only logged. -/
theorem tell_completes (event : Event) {o : Observer}
    (tolerated : ∀ kind, o.failure = some kind → isTolerated kind = true) :
    Completes (tell event o) := by
  refine Completes.bind (fun s tolerant => ⟨_, rfl, tolerant⟩) ?_
  cases failure : o.failure with
  | none => exact fun s tolerant => ⟨s, rfl, tolerant⟩
  | some kind =>
    dsimp only
    rw [if_pos (tolerated kind failure)]
    exact fun s tolerant => ⟨_, rfl, tolerant⟩

theorem announce_completes (event : Event) : Completes (announce event) := fun s tolerant =>
  Completes.forM (fun o inside => tell_completes event (tolerant o inside)) s tolerant

end Session

/-! ## §2 What a Failed Edit Leaves -/

/-- What a failed edit can have done to a circuit. -/
inductive Circuit.Begun (c : Circuit) : Circuit → Prop where
  | nothing : Begun c c
  /-- The counter of a type has counted on. -/
  | counted (type count : Value) : Begun c { c with counters := setCounter c.counters type count }
  /-- A component has other settings, and is as it was otherwise. -/
  | settled {id : Value} {old : Component} (found : c.find? id = .ok (some old))
      (settings : Record) : Begun c (c.replace id { old with settings })

/-- The edit fails when it has begun: an id has been made for a component that cannot be created, or
settings have been changed, and a further part of the changes is none or a selector selects an infinity
now. -/
def Edit.BreaksOff (c : Circuit) : Edit → Prop
  | addComponent type settings id =>
    id = .null ∧ ∃ kind : Kind, type = .text kind.name ∧ ¬ kind.Takes settings
  | updateSettings id changes => ∃ old, c.find? id = .ok (some old) ∧
    (changes.putOnto old.settings).2 ≠ old.settings ∧
      ((∃ e, (changes.putOnto old.settings).1 = .error e) ∨
        old.type.shape = .selector ∧ (changes.putOnto old.settings).2.SelectsInfinity)
  | _ => False

/-- A component that is replaced by itself stays where it is. -/
theorem Circuit.replace_self {c : Circuit} {id : Value} {x : Component}
    (found : c.find? id = .ok (some x)) : c.replace id x = c := by
  have modified (t : Table Component) (h : t.find? id = some x) : (t.modify id fun _ => x) = t := by
    induction t with
    | nil => rfl
    | cons e rest ih =>
      obtain ⟨k, y⟩ := e
      rw [Table.find?_cons] at h
      rw [Table.modify]
      split at h
      · next here =>
        cases h
        rw [if_pos here]
      · next differs => rw [if_neg differs, ih h]
  rw [replace, modified _ (find?_of_ok found).2]

/-- Only a selector that selects an infinity cannot be set back. -/
theorem Component.selectsInfinity_of_reset {c : Component} {e : Fault} (failed : c.reset = .error e) :
    c.type.shape = .selector ∧ c.settings.SelectsInfinity := by
  by_contra starts
  obtain ⟨state, started⟩ := (Shape.initial_ok_iff c.type.shape c.settings).2
    fun isSelector selects => starts ⟨isSelector, selects⟩
  unfold Component.reset at failed
  rw [started] at failed
  cases failed

/-- **Edits**: a failed edit announces nothing, and it has at most begun, which it has only when it
breaks off. -/
theorem Edit.begun {c : Circuit} {edit : Edit} {f : Fault}
    (failed : (edit.apply c).result = .error f) :
    (edit.apply c).events = [] ∧ c.Begun (edit.apply c).circuit ∧
      (¬ edit.BreaksOff c → (edit.apply c).circuit = c) := by
  have ends := edit.ends c
  generalize edit.apply c = edited at ends failed ⊢
  -- the endings without a fault are no failures
  cases ends with
  | failed fault => exact ⟨rfl, .nothing, fun _ => rfl⟩
  | @unmade kind settings id c' fault made fails =>
    obtain ⟨-, count, rfl⟩ := Circuit.nextComponentId_eq_ok made
    refine ⟨rfl, .counted _ _, fun goesOn => absurd ⟨rfl, kind, rfl, fun takes => ?_⟩ goesOn⟩
    obtain ⟨x, created⟩ := (Component.ofSettings_ok_iff id kind settings).2 takes
    rw [fails] at created
    cases created
  | @unsettled id changes old x fault found left =>
    have settled (why : (∃ e, (changes.putOnto old.settings).1 = .error e) ∨
        old.type.shape = .selector ∧ (changes.putOnto old.settings).2.SelectsInfinity) :
        c.Begun (c.replace id (old.changed changes)) ∧
          (¬ (Edit.updateSettings id changes).BreaksOff c →
            c.replace id (old.changed changes) = c) := by
      refine ⟨.settled found _, fun goesOn => ?_⟩
      -- settings that have not been changed are still those of the component
      have same : (changes.putOnto old.settings).2 = old.settings := by
        by_contra differ
        exact goesOn ⟨old, found, differ, why⟩
      rw [Component.changed, same]
      exact Circuit.replace_self found
    cases left with
    | brokenOff put => exact ⟨rfl, settled (.inl ⟨_, put⟩)⟩
    | stuck isReset => exact ⟨rfl, settled (.inr (Component.selectsInfinity_of_reset isReset))⟩
  | ignored | numbered | named | removed | resettled | valued | pressed | connected | disconnected
  | cleared => cases failed

/-! ## §3 Failed Edits in Sessions -/

namespace Session

/-- With observers whose failures are only logged, an edit fails in a session when it fails in the
circuit, and then the circuit is all that can be different. -/
theorem edit_error {s t : Session} {edit : Edit} {f : Fault} (tolerant : s.Tolerant)
    (failed : (Session.edit edit.apply).run.run s = (.error f, t)) :
    (edit.apply s.circuit).result = .error f ∧
      t = { s with circuit := (edit.apply s.circuit).circuit } := by
  let changed := { s with circuit := (edit.apply s.circuit).circuit }
  have run : (Session.edit edit.apply).run.run s = (do
      (edit.apply s.circuit).events.forM announce
      (edit.apply s.circuit).result : Action Value).run.run changed := rfl
  rw [run, run_bind] at failed
  cases result : (edit.apply s.circuit).result with
  | error e =>
    rw [(Edit.begun result).1, result] at failed
    obtain ⟨same, left⟩ := Prod.mk.inj failed
    exact ⟨same, left.symm⟩
  | ok x =>
    -- everyone can be told, so there is a result
    have completes : Completes ((edit.apply s.circuit).events.forM announce) :=
      .forM fun event _ => announce_completes event
    obtain ⟨u, told, -⟩ := completes changed tolerant
    rw [told, result] at failed
    cases (Prod.mk.inj failed).1

/-- A session with a constant, and with an observer that fails. -/
def watchedConstant : Session :=
  (Session.start .empty Engine.standardStart [⟨"view", some .type⟩]).perform
    (.edit (.addComponent (.text "Constant") .null .null))

end Session

end TickCircuit

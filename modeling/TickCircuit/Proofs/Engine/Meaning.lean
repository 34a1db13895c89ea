import Mathlib.Data.Set.Finite.List
import Mathlib.Order.Lattice.Nat
import Mathlib.Order.WellFoundedSet
import TickCircuit.Proofs.Engine.Combinational
import TickCircuit.Proofs.Engine.Delivery

/-!
# The Meaning of an Acyclic Circuit

Of the wires into a pin the first one counts. Where these wires form no cycle, the outputs of a
component can be computed from the outputs of the components that drive it, down to those that
nothing drives: this is the combinational meaning of the circuit (`Circuit.meaning`). It does not
speak of ticks.

How far the meaning of a component reaches down is measured by the paths that lead to it from
components that nothing drives. Each component has a longest one (`exists_longest_path`).
-/

namespace TickCircuit

/-- The signal on an output pin, `absent` if there is none. -/
def Pins.signalAt (pins : Pins) : (pin : Value) → Value
  | .text name => pins.read name
  | _ => .absent

namespace Circuit

variable {c : Circuit} {x y : Component} {n : Nat}

/-! ## §1 What Drives a Component -/

/-- The component and the output pin from which the first wire into an input pin comes, while that
component is there. -/
def source? (c : Circuit) (x : Component) (pin : String) : Option (Component × Value) := do
  let w ← c.wires.find? (·.feeds x.id (.text pin))
  let y ← c.components.find? w.source
  return (y, w.sourcePin)

/-- The first wire into some input pin of `x` comes from `y`. -/
def Drives (c : Circuit) (y x : Component) : Prop :=
  ∃ pin ∈ x.type.inputPins, ∃ out, c.source? x pin = some (y, out)

/-- The wires that count form no cycle. -/
def Acyclic (c : Circuit) : Prop := ∀ x, ¬ Relation.TransGen c.Drives x x

theorem mem_of_source? {pin : String} {out : Value} (h : c.source? x pin = some (y, out)) :
    y ∈ c.components.map Prod.snd := by
  obtain ⟨w, -, h⟩ := Option.bind_eq_some_iff.1 h
  obtain ⟨z, found, h⟩ := Option.bind_eq_some_iff.1 h
  cases h
  obtain ⟨k, member, -⟩ := Table.mem_of_find? found
  exact List.mem_map_of_mem member

theorem mem_of_drives (h : c.Drives y x) : y ∈ c.components.map Prod.snd := by
  obtain ⟨pin, -, out, source⟩ := h
  exact mem_of_source? source

/-- Only finitely many components drive others, so without a cycle every chain of drivers ends. -/
theorem Acyclic.wellFounded (acyclic : c.Acyclic) : WellFounded c.Drives := by
  have strict : IsStrictOrder Component (Relation.TransGen c.Drives) :=
    { irrefl := acyclic, trans := fun _ _ _ => Relation.TransGen.trans }
  have wellFoundedOn : Set.WellFoundedOn {x | x ∈ c.components.map Prod.snd}
      (Relation.TransGen c.Drives) :=
    (List.finite_toSet (c.components.map Prod.snd)).wellFoundedOn
  -- whatever is driven, its drivers are among the components
  have members : ∀ x ∈ c.components.map Prod.snd, Acc c.Drives x := by
    intro x hx
    refine wellFoundedOn.induction hx fun y _ ih => ?_
    exact ⟨y, fun z hz => ih z (mem_of_drives hz) (.single hz)⟩
  exact ⟨fun x => ⟨x, fun y hy => members y (mem_of_drives hy)⟩⟩

/-! ## §2 The Meaning -/

/-- The signal that an input pin receives when the outputs of the components are given. -/
def received (c : Circuit) (outputs : Component → Pins) (x : Component) (pin : String) : Value :=
  match c.source? x pin with
  | none => .absent
  | some (y, out) => ((outputs y).signalAt out).asSignal

/-- The signals that all input pins receive. -/
def inputsFrom (c : Circuit) (outputs : Component → Pins) (x : Component) : Pins :=
  x.type.inputPins.map fun pin => (pin, c.received outputs x pin)

/-- Only the outputs of the components that drive it matter to what a component receives. -/
theorem inputsFrom_congr {f g : Component → Pins} (h : ∀ y, c.Drives y x → f y = g y) :
    c.inputsFrom f x = c.inputsFrom g x := by
  refine List.map_congr_left fun pin member => ?_
  unfold received
  cases source : c.source? x pin with
  | none => rfl
  | some found =>
    dsimp only
    rw [h found.1 ⟨pin, member, found.2, source⟩]

open Classical in
/-- The outputs of a component: its response to what it receives from the meaning of the components
that drive it. -/
noncomputable def meaning (c : Circuit) (m : Moment) (acyclic : c.Acyclic) : Component → Pins :=
  acyclic.wellFounded.fix fun x meaningOf =>
    x.respond m (c.inputsFrom (fun y => if h : c.Drives y x then meaningOf y h else []) x)

/-- The equation that defines the meaning. -/
theorem meaning_eq (m : Moment) (acyclic : c.Acyclic) (x : Component) :
    c.meaning m acyclic x = x.respond m (c.inputsFrom (c.meaning m acyclic) x) := by
  unfold meaning
  rw [acyclic.wellFounded.fix_eq]
  refine congrArg (x.respond m) (inputsFrom_congr fun y drives => ?_)
  rw [dif_pos drives]

/-! ## §3 Paths -/

/-- The lengths of the paths to a component from components that nothing drives. -/
inductive Path (c : Circuit) : Nat → Component → Prop where
  | start {x : Component} (undriven : ∀ y, ¬ c.Drives y x) : Path c 0 x
  | next {n : Nat} {y x : Component} (path : Path c n y) (drives : c.Drives y x) : Path c (n + 1) x

theorem Acyclic.exists_path (acyclic : c.Acyclic) (x : Component) : ∃ n, c.Path n x := by
  induction x using acyclic.wellFounded.induction with
  | _ x ih =>
    by_cases driven : ∃ y, c.Drives y x
    · obtain ⟨y, drives⟩ := driven
      obtain ⟨n, path⟩ := ih y drives
      exact ⟨n + 1, path.next drives⟩
    · exact ⟨0, .start (not_exists.1 driven)⟩

/-- The paths to a component are no longer than some bound: it has only finitely many drivers. -/
theorem Acyclic.exists_bound (acyclic : c.Acyclic) (x : Component) :
    ∃ bound, ∀ n, c.Path n x → n ≤ bound := by
  induction x using acyclic.wellFounded.induction with
  | _ x ih =>
    -- a bound for each driver; the greatest of them bounds the paths without their last wire
    choose bound within using ih
    have finite : {y | c.Drives y x}.Finite :=
      (List.finite_toSet (c.components.map Prod.snd)).subset fun y => mem_of_drives
    have := finite.to_subtype
    obtain ⟨top, above⟩ := (Set.finite_range fun y : {y | c.Drives y x} => bound y.1 y.2).bddAbove
    refine ⟨top + 1, fun n path => ?_⟩
    cases path with
    | start undriven => exact Nat.zero_le _
    | @next n y _ path drives =>
      have := within y drives n path
      have := above ⟨⟨y, drives⟩, rfl⟩
      dsimp only at this
      omega

theorem Acyclic.exists_longest_path (acyclic : c.Acyclic) (x : Component) :
    ∃ d, IsGreatest {n | c.Path n x} d := by
  obtain ⟨bound, within⟩ := acyclic.exists_bound x
  have bounded : BddAbove {n | c.Path n x} := ⟨bound, within⟩
  exact ⟨_, Nat.sSup_mem (acyclic.exists_path x) bounded, fun n path => le_csSup bounded path⟩

/-- The depth of a circuit: the number of wires of its longest paths. -/
theorem Acyclic.exists_depth (acyclic : c.Acyclic) :
    ∃ d, IsLUB {n | ∃ e ∈ c.components, c.Path n e.2} d := by
  choose bound within using acyclic.exists_bound
  obtain ⟨top, above⟩ :=
    ((List.finite_toSet c.components).image fun e => bound e.2).bddAbove
  refine ⟨_, isLUB_csSup' ⟨top, ?_⟩⟩
  rintro n ⟨e, member, path⟩
  exact (within e.2 n path).trans (above (Set.mem_image_of_mem _ member))

end Circuit

end TickCircuit

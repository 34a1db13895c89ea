import TickCircuit.Proofs.Circuit.Edits
import TickCircuit.Proofs.Engine.Tick

/-!
# Deeds

Only four things can be done with an engine and the circuit that it runs: the circuit is edited, the
engine ticks, it is reset, or it is given another tick length. Every call on a session comes down to a
list of such deeds, so a law of all lists of deeds is a law of all sessions.
-/

namespace TickCircuit

/-- An engine and the circuit that it runs. -/
structure Bench where
  engine : Engine
  circuit : Circuit

def Ticked.bench (t : Ticked) : Bench := ⟨t.engine, t.circuit⟩

inductive Deed where
  | edit (edit : Edit)
  | tick
  | reset
  | pace (interval : Float)

def Deed.isEdit : Deed → Bool
  | edit _ => true
  | _ => false

/-- The deed takes components away. -/
def Deed.frees : Deed → Bool
  | edit e => e.frees
  | _ => false

namespace Bench

/-- The bench after a deed, whether the deed ends in a fault or not. -/
def undergo (b : Bench) : Deed → Bench
  | .edit e => { b with circuit := (e.apply b.circuit).circuit }
  | .tick => (b.engine.tick b.circuit).bench
  | .reset => (b.engine.reset b.circuit).bench
  | .pace interval => { b with engine := { b.engine with interval } }

def after (b : Bench) (deeds : List Deed) : Bench := deeds.foldl undergo b

variable {b : Bench}

@[simp] theorem after_nil (b : Bench) : b.after [] = b := rfl

@[simp] theorem after_cons (b : Bench) (d : Deed) (deeds : List Deed) :
    b.after (d :: deeds) = (b.undergo d).after deeds := rfl

theorem after_append (b : Bench) (deeds more : List Deed) :
    b.after (deeds ++ more) = (b.after deeds).after more := List.foldl_append

theorem after_concat (b : Bench) (deeds : List Deed) (d : Deed) :
    b.after (deeds ++ [d]) = (b.after deeds).undergo d := after_append b deeds [d]

theorem undergo_tick_engine (b : Bench) :
    (b.undergo .tick).engine = (b.engine.tick b.circuit).engine := rfl

/-- What every deed keeps is kept by all that is done. -/
theorem after_invariant {p : Bench → Prop} (step : ∀ b d, p b → p (b.undergo d)) (h : p b)
    (deeds : List Deed) : p (b.after deeds) :=
  List.foldlRecOn deeds undergo h fun b kept d _ => step b d kept

/-! ## §1 The Circuit -/

theorem undergo_samePlan (b : Bench) {d : Deed} (h : d.isEdit = false) :
    b.circuit.SamePlan (b.undergo d).circuit := by
  cases d with
  | edit e => cases h
  | tick => exact b.engine.tick_samePlan b.circuit
  | reset => exact b.engine.reset_samePlan b.circuit
  | pace interval => exact .refl b.circuit

theorem after_samePlan {deeds : List Deed} (h : ∀ d ∈ deeds, d.isEdit = false) :
    b.circuit.SamePlan (b.after deeds).circuit := by
  induction deeds generalizing b with
  | nil => exact .refl b.circuit
  | cons d rest ih =>
    obtain ⟨first, others⟩ := List.forall_mem_cons.1 h
    exact (b.undergo_samePlan first).trans (ih others)

/-- **Step**: a deed on an integral circuit does one of the things that can happen to it. -/
theorem undergo_change (h : b.circuit.Integral) (d : Deed) :
    ∃ made, b.circuit.Change made (b.undergo d).circuit := by
  cases isEdit : d.isEdit with
  | false => exact ⟨none, (b.undergo_samePlan isEdit).change⟩
  | true =>
    cases d with
    | edit e => exact e.change h
    | _ => cases isEdit

/-- **Run**: whatever is done, the circuit stays integral. -/
theorem after_integral (h : b.circuit.Integral) (deeds : List Deed) :
    (b.after deeds).circuit.Integral := by
  refine after_invariant (p := fun b => b.circuit.Integral) (fun b d h => ?_) h deeds
  obtain ⟨made, change⟩ := undergo_change h d
  exact h.change change

/-- What depends on the plan of a circuit only and is kept by edits is kept by all deeds. -/
theorem after_of_plan {p : Circuit → Prop} (plan : ∀ {c c' : Circuit}, c.SamePlan c' → p c → p c')
    (edited : ∀ {c : Circuit}, p c → ∀ e : Edit, p (e.apply c).circuit) (h : p b.circuit) (deeds : List Deed) :
    p (b.after deeds).circuit := by
  refine after_invariant (p := fun b => p b.circuit) (fun b d h => ?_) h deeds
  cases isEdit : d.isEdit with
  | false => exact plan (b.undergo_samePlan isEdit) h
  | true =>
    cases d with
    | edit e => exact edited h e
    | _ => cases isEdit

/-! ## §2 The Engine -/

theorem undergo_settings (b : Bench) (d : Deed) :
    (b.undergo d).engine.settings = b.engine.settings := by
  cases d with
  | tick => exact b.engine.tick_settings b.circuit
  | _ => rfl

/-- The settings of an engine are set once. -/
theorem after_settings (b : Bench) (deeds : List Deed) :
    (b.after deeds).engine.settings = b.engine.settings := by
  induction deeds generalizing b with
  | nil => rfl
  | cons d rest ih => exact (ih (b.undergo d)).trans (b.undergo_settings d)

/-- A run is some ticks. -/
theorem exists_deeds_of_run (e : Engine) (c : Circuit) (count : Nat) :
    ∃ k, (e.run c count).bench = after ⟨e, c⟩ (List.replicate k .tick) := by
  induction count with
  | zero => exact ⟨0, rfl⟩
  | succ count ih =>
    cases ended : (e.run c count).fault with
    | some fault =>
      -- the run has ended, and one more tick of it is none
      rw [Engine.run_succ_of_fault (by rw [ended]; rfl)]
      exact ih
    | none =>
      obtain ⟨k, ticked⟩ := ih
      obtain ⟨circuit, engine, -⟩ := Engine.run_succ ended
      refine ⟨k + 1, ?_⟩
      rw [List.replicate_succ', after_concat, ← ticked, Ticked.bench, circuit, engine]
      rfl

end Bench

end TickCircuit

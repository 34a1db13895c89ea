import TickCircuit.Component.Basic
import TickCircuit.Proofs.Value.Key

/-!
# What Components Keep

The id, the type and the settings of a component are fixed when it is created, and so is the value of
a component that carries a literal. Neither a tick nor setting a component back changes them.
-/

namespace TickCircuit

/-- What no tick changes about a component. -/
structure Fixture where
  id : Value
  type : ComponentType
  settings : Record
  /-- The value, where it is a literal. -/
  literal : Option Value

namespace Component

variable {c new : Component}

def fixture (c : Component) : Fixture :=
  ⟨c.id, c.type, c.settings, if c.type.literal?.isSome then some c.value else none⟩

/-- A component is created with its id and its type. -/
theorem create_id_type {id type value : Value} {settings : Record}
    (h : create id type settings value = .ok c) :
    c.id = id ∧ c.type = ComponentType.ofValue type := by
  unfold create at h
  cases key : type.asKey with
  | error e => rw [key] at h; cases h
  | ok type' =>
    obtain ⟨-, rfl⟩ := Value.isKey_of_asKey key
    rw [key] at h
    simp only [bind, Except.bind, pure, Except.pure] at h
    split at h
    · cases h
    · cases h
      exact ⟨rfl, rfl⟩

theorem reset_fixture (h : c.reset = .ok new) : new.fixture = c.fixture := by
  unfold reset at h
  simp only [bind, Except.bind, pure, Except.pure] at h
  split at h
  · cases h
  · cases h
    unfold fixture
    dsimp only
    split <;> rfl

end Component

end TickCircuit

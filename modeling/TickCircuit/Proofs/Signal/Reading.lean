import TickCircuit.Proofs.Number.Exact
import TickCircuit.Signal.Comparison

/-!
# What Signals Read As

A signal that reads as a number is present, and the number is no NaN. So it has an exact value: its sign
is zero for zeros only, and it is equal to itself. Every signal is loosely equal to itself, then, whether
it is compared as a number or as a text (`looseEquals_self`).
-/

namespace TickCircuit

namespace Value

variable {v : Value} {n : Number}

/-! ## §1 Presence -/

theorem reading?_of_missing (missing : v.isPresent = false) : v.reading? = none := by
  cases v with
  | null | absent => rfl
  | text s =>
    cases (by simpa [isPresent] using missing : s = "")
    rfl
  | _ => cases missing

theorem isPresent_of_reading? (read : v.reading? = some n) : v.isPresent = true := by
  by_contra missing
  rw [reading?_of_missing (Bool.eq_false_iff.2 missing)] at read
  cases read

/-! ## §2 Exact Values -/

/-- No signal reads as a NaN. -/
theorem unpack_ne_notANumber {x : Float} (read : v.reading? = some (.real x)) :
    x.toModel.unpack ≠ .notANumber := by
  have survives {y : Float} (h : unlessNaN y = some (.real x)) : x.isNaN = false := by
    unfold unlessNaN at h
    split at h
    · cases h
    · next number =>
      cases h
      exact Bool.eq_false_iff.2 number
  -- a `Float` that is read has been checked, or it is the infinity for a whole number out of range
  have number : x.isNaN = false := by
    cases v with
    | int n =>
      simp only [reading?] at read
      split at read
      · cases read
      · cases Option.some.inj read
        split <;> rfl
    | real y => exact survives read
    | text t =>
      simp only [reading?, Option.bind_eq_some_iff] at read
      obtain ⟨y, -, kept⟩ := read
      exact survives kept
    | _ => simp [reading?] at read
  intro unpacked
  have same : x.isNaN = x.toModel.unpack.isNaN := rfl
  rw [same, unpacked] at number
  cases number

theorem exists_exactValue? (read : v.reading? = some n) : ∃ u, n.exactValue? = some u := by
  cases n with
  | int k => exact ⟨_, rfl⟩
  | real x =>
    have number := unpack_ne_notANumber read
    change ∃ u, Binary.exactOf x.toModel.unpack = some u
    cases form : x.toModel.unpack with
    | notANumber => exact absurd form number
    | infinity s => cases s <;> exact ⟨_, rfl⟩
    | zero s => exact ⟨_, rfl⟩
    | finite s m e pos => exact ⟨_, rfl⟩

/-- Whole numbers are read only within the range of finite `Float`s. -/
theorem holdsInt_of_reading? {z : ℤ} (read : v.reading? = some (.int z)) : Binary.holdsInt z = true := by
  have real {x : Float} (h : unlessNaN x = some (.int z)) : False := by
    unfold unlessNaN at h
    split at h <;> cases h
  cases v with
  | flag b => cases b <;> cases read <;> rfl
  | int m =>
    rw [reading?] at read
    split at read
    · next holds =>
      cases read
      exact holds
    · cases read
  | real x => exact (real read).elim
  | text s =>
    rw [reading?] at read
    obtain ⟨x, -, kept⟩ := Option.bind_eq_some_iff.1 read
    exact (real kept).elim
  | _ => simp [reading?] at read

theorem numberOrZero_of_reading? (read : v.reading? = some n) : v.numberOrZero = n := by
  rw [numberOrZero, read]
  rfl

/-- A number that is read and is not zero points up or down. -/
theorem sign_of_reading? (read : v.reading? = some n) (nonzero : n.isZero = false) :
    n.sign = 1 ∨ n.sign = -1 := by
  obtain ⟨u, exact_n⟩ := exists_exactValue? read
  have exact_zero : (Number.int 0).exactValue? = some (.ofInt 0) := rfl
  unfold Number.sign Number.lt
  unfold Number.isZero Number.eq at nonzero
  rw [Number.compare?_eq_exact, exact_n, exact_zero, Option.map₂_some_some] at nonzero ⊢
  rw [Number.compare?_eq_exact, exact_n, exact_zero, Option.map₂_some_some]
  rcases lt_trichotomy u (.ofInt 0) with below | equal | above
  · right
    rw [compare_gt_iff_gt.2 below, compare_lt_iff_lt.2 below]
    rfl
  · rw [compare_eq_iff_eq.2 equal] at nonzero
    cases nonzero
  · left
    rw [compare_lt_iff_lt.2 above]
    rfl

/-! ## §3 Comparison -/

/-- A signal is equal to itself, of whatever kind it is. -/
theorem looseEquals_self (v : Value) (tolerance : Option Number) :
    v.looseEquals v tolerance = true := by
  unfold looseEquals
  cases read : v.reading? with
  | none => exact beq_self_eq_true _
  | some n =>
    obtain ⟨u, exact_n⟩ := exists_exactValue? read
    have equal : n.eq n = true := Number.eq_iff_exact.2 ⟨u, exact_n, exact_n⟩
    simp [within, equal]

end Value

end TickCircuit

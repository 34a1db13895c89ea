import TickCircuit.Proofs.Number.Halves
import TickCircuit.Proofs.Reaction.Fallbacks

/-!
# Rounding Half Up

The component that rounds adds one half to a `Float` and takes the floor. For most numbers this is the floor of
the exact sum: the nearest whole number, a half going up, and so every whole number that is a `Float` comes out
as itself. It is not for a few numbers that the addition, or the conversion to a `Float` before it, rounds away
from it (`IsMissed`). Rounding is monotone without exception (`round_half_up`).
-/

namespace TickCircuit

open Binary

/-! ## §1 Numbers and What They Stand For -/

namespace Number

variable {n n' : Number} {q q' : ℚ} {z : ℤ}

/-- The number is exactly `q`. -/
def StandsFor (n : Number) (q : ℚ) : Prop := ∃ a : ℤ, n.exactValue? = some (.units a) ∧ (a : ℚ) = q * 2 ^ 1074

theorem standsFor_int : (int z).StandsFor q ↔ q = z := by
  have unit : (2 : ℚ) ^ 1074 ≠ 0 := pow_ne_zero _ two_ne_zero
  have units : ((z * 2 ^ 1074 : ℤ) : ℚ) = z * 2 ^ 1074 := by
    rw [Int.cast_mul, Int.cast_pow, Int.cast_ofNat]
  constructor
  · rintro ⟨a, value, amount⟩
    cases Exact.units_injective (Option.some.inj value)
    rw [units] at amount
    exact (mul_right_cancel₀ unit amount).symm
  · rintro rfl
    exact ⟨_, rfl, units⟩

theorem isFinite_of_reading? {v : Value} (read : v.reading? = some n) (stands : n.StandsFor q) :
    n.isFinite = true := by
  cases n with
  | int z => exact Value.holdsInt_of_reading? read
  | real x =>
    obtain ⟨a, value, -⟩ := stands
    exact isFinite_iff.2 ⟨a, value⟩

/-- As a `Float` a number is the nearest one to what it stands for. -/
theorem exists_units_toFloat (finite : n.isFinite = true) (stands : n.StandsFor q) :
    ∃ r, IsNearest (q * 2 ^ 1074) r ∧ Binary.exactValue? n.toFloat = some (.units r) := by
  cases n with
  | int z =>
    obtain ⟨a, value⟩ := isFinite_iff.1 finite
    obtain ⟨r, nearest, packed⟩ := roundsTo_ofInt z
    rw [standsFor_int.1 stands]
    obtain ⟨rfl, -⟩ := packedValue_eq_units_iff.1 (Option.some.inj (packed.symm.trans value))
    exact ⟨r, nearest, value⟩
  | real x =>
    obtain ⟨a, value, amount⟩ := stands
    rw [← amount]
    exact ⟨a, .self (onGrid_of_exactValue? value).1, value⟩

/-- So the order is kept. -/
theorem toFloat_le_toFloat (finite : n.isFinite = true) (stands : n.StandsFor q) (finite' : n'.isFinite = true)
    (stands' : n'.StandsFor q') (order : q ≤ q') : n.toFloat ≤ n'.toFloat := by
  obtain ⟨r, nearest, value⟩ := exists_units_toFloat finite stands
  obtain ⟨r', nearest', value'⟩ := exists_units_toFloat finite' stands'
  refine le_iff.2 ⟨_, _, value, value', Exact.units_le.2 ?_⟩
  rcases order.lt_or_eq with less | rfl
  · exact nearest.mono nearest' (mul_lt_mul_of_pos_right less (pow_pos two_pos _))
  · -- numbers that are equal are rounded alike if one of them is a `Float`, or both are the same whole number
    have real {x : Float} (stands : (real x).StandsFor q) : ∃ b : ℤ, OnGrid b ∧ q * 2 ^ 1074 = b := by
      obtain ⟨a, value, amount⟩ := stands
      exact ⟨a, (onGrid_of_exactValue? value).1, amount.symm⟩
    have same (exact_q : ∃ b : ℤ, OnGrid b ∧ q * 2 ^ 1074 = b) : r ≤ r' := by
      obtain ⟨b, onGrid, amount⟩ := exact_q
      rw [amount] at nearest nearest'
      rw [nearest.eq onGrid, nearest'.eq onGrid]
    cases n with
    | real x => exact same (real stands)
    | int z =>
      cases n' with
      | real x => exact same (real stands')
      | int z' =>
        cases Int.cast_injective ((standsFor_int.1 stands).symm.trans (standsFor_int.1 stands'))
        exact (Exact.units_injective (Option.some.inj (value.symm.trans value'))).le

end Number

/-! ## §2 Rounding -/

namespace Unary

variable {n n' : Number} {q q' : ℚ} {z : ℤ}

/-- One half is added to the nearest `Float`. -/
theorem halfUp_eq (n : Number) : halfUp n = (floor? (n.toFloat + 0.5)).getD 0 := by
  cases n <;> rfl

theorem halfUp_eq_iff_of_isHalfUp {k : ℤ} (halfUp : IsHalfUp q k) : k = ⌊q + 1 / 2⌋ ↔ ¬ IsMissed q := by
  rcases halfUp with ⟨regular, equal⟩ | ⟨missed, next⟩
  · exact iff_of_true equal regular
  · exact iff_of_false (by omega) (not_not.2 missed)

/-- A whole number that is no `Float` is replaced by the nearest one, and nothing else happens to it. -/
theorem halfUp_of_not_isFloat (inRange : holdsInt z = true) (noFloat : ¬ IsFloat z) :
    halfUp (.int z) = nearestWhole z := by
  have value := exactValue?_ofInt inRange
  have large : 2 ^ 53 ≤ (nearestWhole z).natAbs := by
    refine natAbs_nearestWhole_ge inRange ?_
    by_contra small
    exact noFloat (isFloat_of_le (by omega))
  generalize nearestWhole z = c at value large ⊢
  rw [halfUp_eq]
  change (floor? (ofInt z + 0.5)).getD 0 = c
  by_cases tight : IsTight c
  · -- this is the one number between those with room for a bit less and those with room for a bit more
    have least : c = -2 ^ 53 := by
      unfold IsTight at tight
      omega
    subst least
    rw [floor?_of_units (exactValue?_add_half_of_tight value tight), Int.mul_ediv_cancel _ unit_pos.ne']
    rfl
  · rw [floor?_whole_add_half value tight]
    rfl

/-- Rounding gives the floor of the exact sum with one half exactly for numbers that are not missed. -/
theorem halfUp_eq_iff (finite : n.isFinite = true) (stands : n.StandsFor q) :
    halfUp n = ⌊q + 1 / 2⌋ ↔ ¬ IsMissed q := by
  rw [halfUp_eq]
  cases n with
  | real x =>
    obtain ⟨a, value, units⟩ := stands
    obtain ⟨k, floor, halfUp⟩ := floor?_add_half value units
    change (floor? (x + 0.5)).getD 0 = _ ↔ _
    rw [floor, Option.getD_some, halfUp_eq_iff_of_isHalfUp halfUp]
  | int z =>
    rw [Number.standsFor_int.1 stands]
    by_cases float : IsFloat z
    · obtain ⟨k, floor, halfUp⟩ := floor?_float_add_half (isFloat_iff.1 float)
      change (floor? (ofInt z + 0.5)).getD 0 = _ ↔ _
      rw [floor, Option.getD_some, halfUp_eq_iff_of_isHalfUp halfUp]
    · rw [← halfUp_eq, halfUp_of_not_isFloat finite float, floor_whole_half]
      exact iff_of_false float (not_not.2 (.rounded float))

theorem halfUp_mono (finite : n.isFinite = true) (stands : n.StandsFor q) (finite' : n'.isFinite = true)
    (stands' : n'.StandsFor q') (order : q ≤ q') : halfUp n ≤ halfUp n' := by
  obtain ⟨a, -, value⟩ := Number.exists_units_toFloat finite stands
  obtain ⟨a', -, value'⟩ := Number.exists_units_toFloat finite' stands'
  obtain ⟨r, -, sum⟩ := exists_sum value
  obtain ⟨r', -, sum'⟩ := exists_sum value'
  have sums := Binary.add_le_add (Number.toFloat_le_toFloat finite stands finite' stands' order)
    (isFinite_iff.2 ⟨a, value⟩) (isFinite_iff.2 ⟨a', value'⟩) exactValue?_half
  obtain ⟨u, v, valueU, valueV, less⟩ := le_iff.1 sums
  cases sum.symm.trans valueU
  cases sum'.symm.trans valueV
  rw [halfUp_eq, halfUp_eq, floor?_of_units sum, floor?_of_units sum']
  exact Int.ediv_le_ediv unit_pos (Exact.units_le.1 less)

end Unary

/-! ## §3 What the Component Emits -/

namespace Reaction

section Round

variable {s s' : Stimulus} {n n' : Number} {x x' : ℚ} (state state' : Kind.round.shape.State)

theorem emitted_round (read : (s.input "SIGNAL_IN").reading? = some n) (stands : n.StandsFor x) :
    (ofKind s .round state).emitted "SIGNAL_OUT" = .ok (.int (Unary.halfUp n)) := by
  have finite := Number.isFinite_of_reading? read stands
  change (unary s Unary.round).emitted "SIGNAL_OUT" = _
  rw [emitted_unary, Unary.round, read]
  dsimp only
  rw [if_pos finite]
  rfl

/-- Of two finite numbers each is rounded to a whole number. It is the floor of the exact sum with one half exactly
if the number is not missed; it is then at most one half away, and a whole number is kept. The order of the
two is kept in any case. -/
theorem round_half_up (read : (s.input "SIGNAL_IN").reading? = some n) (stands : n.StandsFor x)
    (read' : (s'.input "SIGNAL_IN").reading? = some n') (stands' : n'.StandsFor x') :
    ∃ k k' : ℤ, (ofKind s .round state).emitted "SIGNAL_OUT" = .ok (.int k) ∧
      (ofKind s' .round state').emitted "SIGNAL_OUT" = .ok (.int k') ∧
      ((k ≤ x + 1 / 2 ∧ x + 1 / 2 < k + 1) ↔ ¬ IsMissed x) ∧
      (¬ IsMissed x → |(k : ℚ) - x| ≤ 1 / 2 ∧ ∀ i : ℤ, x = i → k = i) ∧
      (x ≤ x' → k ≤ k') := by
  have finite := Number.isFinite_of_reading? read stands
  have finite' := Number.isFinite_of_reading? read' stands'
  have exact_x : (Unary.halfUp n ≤ x + 1 / 2 ∧ x + 1 / 2 < Unary.halfUp n + 1) ↔ ¬ IsMissed x := by
    rw [← Unary.halfUp_eq_iff finite stands, ← Int.floor_eq_iff, eq_comm]
  refine ⟨_, _, emitted_round state read stands, emitted_round state' read' stands', exact_x, fun regular => ?_,
    Unary.halfUp_mono finite stands finite' stands'⟩
  obtain ⟨low, high⟩ := exact_x.2 regular
  refine ⟨abs_le.2 ⟨by linarith, by linarith⟩, ?_⟩
  rintro i rfl
  rw [(Unary.halfUp_eq_iff finite stands).2 regular, floor_whole_half]

/-- Two and a half is rounded up, and that is not above what three is rounded to. -/
theorem round_half_up_five_halves :
    let s := firstStimulus [] [("SIGNAL_IN", .real 2.5)] 100.0
    let s' := firstStimulus [] [("SIGNAL_IN", .int 3)] 100.0
    ∃ k k' : ℤ, (ofKind s .round ()).emitted "SIGNAL_OUT" = .ok (.int k) ∧
      (ofKind s' .round ()).emitted "SIGNAL_OUT" = .ok (.int k') ∧
      k ≤ (5 / 2 + 1 / 2 : ℚ) ∧ (5 / 2 + 1 / 2 : ℚ) < k + 1 ∧ k ≤ k' := by
  intro s s'
  have value : Binary.exactValue? 2.5 = some (.units (5629499534213120 * 2 ^ 1023)) := by rfl
  have amount : ((5629499534213120 * 2 ^ 1023 : ℤ) : ℚ) = 5 / 2 * 2 ^ 1074 := by
    have power : (2 : ℚ) ^ 1074 = 2 ^ 51 * 2 ^ 1023 := by rw [← pow_add]
    rw [power, Int.cast_mul, Int.cast_pow, Int.cast_ofNat, Int.cast_ofNat, ← mul_assoc]
    norm_num
  have stands : (Number.real 2.5).StandsFor (5 / 2) := ⟨_, value, amount⟩
  have fraction (z : ℤ) : (5 / 2 : ℚ) ≠ z := by
    intro whole
    have doubled : (5 : ℤ) = 2 * z := by
      have : (5 : ℚ) = 2 * z := by linarith
      exact_mod_cast this
    omega
  have regular : ¬ IsMissed (5 / 2) := by
    generalize amount : (5 / 2 : ℚ) = x at fraction
    rintro (_ | _ | _)
    · norm_num at amount
    · exact fraction _ rfl
    · exact fraction _ rfl
  have read : (s.input "SIGNAL_IN").reading? = some (.real 2.5) := rfl
  have read' : (s'.input "SIGNAL_IN").reading? = some (.int 3) := rfl
  obtain ⟨k, k', emitted, emitted', halfUp, -, mono⟩ :=
    round_half_up () () read stands read' (Number.standsFor_int.2 rfl)
  obtain ⟨low, high⟩ := halfUp.2 regular
  exact ⟨k, k', emitted, emitted', low, high, mono (by norm_num)⟩

/-- The greatest `Float` below one half is rounded up, and an odd number that leaves no room for a half is not
kept. -/
theorem round_misses :
    let s := firstStimulus [] [("SIGNAL_IN", .real 0.49999999999999994)] 100.0
    let s' := firstStimulus [] [("SIGNAL_IN", .int 4503599627370497)] 100.0
    (∃ n x, (s.input "SIGNAL_IN").reading? = some n ∧ n.StandsFor x ∧
        (ofKind s .round ()).emitted "SIGNAL_OUT" = .ok (.int 1) ∧ ¬ (1 : ℤ) ≤ x + 1 / 2) ∧
      (s'.input "SIGNAL_IN").reading? = some (.int 4503599627370497) ∧
        (ofKind s' .round ()).emitted "SIGNAL_OUT" = .ok (.int 4503599627370498) := by
  intro s s'
  refine ⟨⟨.real 0.49999999999999994, 1 / 2 - 1 / 2 ^ 54, rfl, ?_, rfl, ?_⟩, rfl, rfl⟩
  · exact ⟨_, exactValue?_belowHalf, cast_belowHalf⟩
  · norm_num

end Round

end Reaction

end TickCircuit

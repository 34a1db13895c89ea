import TickCircuit.Proofs.Number.WholeParts
import TickCircuit.Proofs.Reaction.Fallbacks

/-!
# Remainders and Powers of Whole Numbers

Remainders and powers are formed of `Float`s, and made whole again if both operands are whole. A remainder of
`Float`s is exact, so the remainder of two whole numbers is the one of the `Float`s nearest to them
(`modulo_of_int`). How a power is rounded is left to the platform; as long as it gives one of the `Float`s
next to the exact power (`RoundsPowers`), a power of whole numbers comes out exact if and only if it is a `Float`
(`powerBy_of_int`).
-/

namespace TickCircuit

open Binary

variable {n m b e k : ℤ} {v w : Value}

/-! ## §1 Remainders -/

namespace Unary

/-- The remainder `r` of a division of `n` by `m`, with the sign of `n`. -/
structure IsRemainder (n m r : ℤ) : Prop where
  smaller : |r| < |m|
  sign : r = 0 ∨ r.sign = n.sign
  divides : m ∣ n - r

theorem isRemainder_tmod (n : ℤ) (nonzero : m ≠ 0) : IsRemainder n m (n.tmod m) where
  smaller := by
    rw [Int.abs_eq_natAbs, Int.abs_eq_natAbs, Int.natAbs_tmod]
    exact_mod_cast Nat.mod_lt _ (Int.natAbs_pos.2 nonzero)
  sign := by
    by_cases divides : m ∣ n
    · exact .inl (Int.tmod_eq_zero_of_dvd divides)
    · right
      rw [Int.sign_tmod, if_neg divides]
  divides := Int.dvd_self_sub_tmod

theorem wholeOf_of_exactValue? {x : Float} (value : exactValue? x = some (.ofInt k)) : wholeOf x = k := by
  rw [wholeOf, truncate?_of_units value, Option.getD_some]
  exact Int.mul_tdiv_cancel _ (pow_ne_zero _ two_ne_zero)

/-- The remainder of two whole numbers is the one of the `Float`s nearest to them. -/
theorem modulo_of_int (read : v.reading? = some (.int n)) (readM : w.reading? = some (.int m))
    (nonzero : m ≠ 0) : modulo v w = some (.int ((nearestWhole n).tmod (nearestWhole m))) := by
  have finite : (Number.int n).isFinite = true := Value.holdsInt_of_reading? read
  have divisor : (Number.int m).isZero = false := by simpa [Number.isZero, Number.eq, Number.compare?] using nonzero
  have valueN := exactValue?_ofInt (Value.holdsInt_of_reading? read)
  have valueM := exactValue?_ofInt (Value.holdsInt_of_reading? readM)
  have units : nearestWhole m * 2 ^ 1074 ≠ 0 :=
    mul_ne_zero (nearestWhole_ne_zero (Value.holdsInt_of_reading? readM) nonzero) (pow_ne_zero _ two_ne_zero)
  have rest : exactValue? (remainder (ofInt n) (ofInt m)) =
      some (.ofInt ((nearestWhole n).tmod (nearestWhole m))) := by
    rw [exactValue?_remainder valueN valueM units, mul_comm, mul_comm (nearestWhole m),
      Int.mul_tmod_mul_of_pos _ _ (pow_pos two_pos _), mul_comm]
    rfl
  unfold modulo
  rw [if_pos (Value.isPresent_of_reading? read), Value.numberOrZero_of_reading? read,
    Value.numberOrZero_of_reading? readM]
  dsimp only
  rw [divisor, finite, ← wholeOf_of_exactValue? rest]
  rfl

/-! ## §2 Powers -/

/-- The power of two signals, with some way to form the power of `Float`s. -/
def powerBy (pow : Float → Float → Float) (v exponent : Value) : Option Value :=
  if v.isPresent then
    let base := v.numberOrZero
    let e := exponent.numberOrZero
    let result := pow base.toFloat e.toFloat
    if !result.isFinite then some (.int 0)
    else if isWhole result && base.isInt && e.isInt && (Number.int 0).le e then
      some (.int (wholeOf result))
    else some (.real result)
  else none

theorem power_eq : power = powerBy Float.pow := rfl

end Unary

namespace Binary

/-- A power of whole numbers is not rounded across a `Float`. -/
def RoundsPowers (pow : Float → Float → Float) : Prop :=
  ∀ {x y : Float} {b : ℤ} {e : ℕ}, exactValue? x = some (.ofInt b) → exactValue? y = some (.ofInt e) →
    ∃ r, IsNextTo (b ^ e * 2 ^ 1074) r ∧ exactValue? (pow x y) = some (packedValue r)

end Binary

namespace Unary

variable {pow : Float → Float → Float}

/-- The power of whole numbers with an exponent that is not negative. -/
theorem powerBy_of_int (read : v.reading? = some (.int b)) (readE : w.reading? = some (.int e)) (nonneg : 0 ≤ e) :
    powerBy pow v w = some
      (if (pow (ofInt b) (ofInt e)).isFinite then
        if isWhole (pow (ofInt b) (ofInt e)) then .int (wholeOf (pow (ofInt b) (ofInt e)))
        else .real (pow (ofInt b) (ofInt e))
      else .int 0) := by
  have order : (Number.int 0).le (.int e) = true :=
    (Number.le_iff_exact rfl rfl).2 (Exact.units_le.2 (mul_le_mul_of_nonneg_right nonneg (pow_nonneg zero_le_two _)))
  have whole (n : ℤ) : (Number.int n).isInt = true := rfl
  have nearest (n : ℤ) : (Number.int n).toFloat = ofInt n := rfl
  unfold powerBy
  rw [if_pos (Value.isPresent_of_reading? read), Value.numberOrZero_of_reading? read,
    Value.numberOrZero_of_reading? readE]
  dsimp only
  rw [order, whole, whole, nearest, nearest]
  generalize pow (ofInt b) (ofInt e) = x
  cases x.isFinite <;> cases isWhole x <;> rfl

/-- A power of whole numbers is a whole number. It is on the same side of every `Float` as the power of the `Float`s
nearest to them, as long as this is within the range. -/
theorem exists_powerBy (rounds : RoundsPowers pow) (read : v.reading? = some (.int b))
    (readE : w.reading? = some (.int e)) (nonneg : 0 ≤ e) :
    ∃ k, powerBy pow v w = some (.int k) ∧ IsFloat k ∧
      ∀ {c d}, IsFloat c → IsFloat d → c ≤ nearestWhole b ^ (nearestWhole e).toNat →
        nearestWhole b ^ (nearestWhole e).toNat ≤ d → c ≤ k ∧ k ≤ d := by
  have unit : (0 : ℤ) < 2 ^ 1074 := pow_pos two_pos _
  have inRange := Value.holdsInt_of_reading? readE
  have valueB := exactValue?_ofInt (Value.holdsInt_of_reading? read)
  have valueE := exactValue?_ofInt inRange
  have exponent : ((nearestWhole e).toNat : ℤ) = nearestWhole e :=
    Int.toNat_of_nonneg (nearestWhole_nonneg inRange nonneg)
  rw [← exponent] at valueE
  obtain ⟨r, next, value⟩ := rounds valueB valueE
  obtain ⟨k, rfl⟩ := exists_eq_mul_left_of_dvd next.dvd
  rw [powerBy_of_int read readE nonneg]
  generalize nearestWhole b ^ (nearestWhole e).toNat = p at next ⊢
  generalize pow (ofInt b) (ofInt e) = x at value ⊢
  -- what lies between two `Float`s before rounding lies between them afterwards
  have between {c d : ℤ} (floatC : IsFloat c) (floatD : IsFloat d) (low : c ≤ p) (high : p ≤ d) :
      (c ≤ k ∧ k ≤ d) ∧ (k * 2 ^ 1074).natAbs < ceiling := by
    obtain ⟨onGridC, smallC⟩ := isFloat_iff_onGrid.1 floatC
    obtain ⟨onGridD, smallD⟩ := isFloat_iff_onGrid.1 floatD
    have above := next.ge _ onGridC (mul_le_mul_of_nonneg_right low unit.le)
    have below := next.le _ onGridD (mul_le_mul_of_nonneg_right high unit.le)
    exact ⟨⟨le_of_mul_le_mul_right above unit, le_of_mul_le_mul_right below unit⟩, by omega⟩
  -- beyond the range the power is an infinity, and the answer is zero
  by_cases small : (k * 2 ^ 1074).natAbs < ceiling
  · rw [packedValue_of_lt small] at value
    have finite : x.isFinite = true := isFinite_iff.2 ⟨_, value⟩
    have whole : isWhole x = true := (isWhole_iff value).2 (dvd_mul_left _ _)
    refine ⟨k, ?_, isFloat_of_exactValue? value, fun floatC floatD low high => (between floatC floatD low high).1⟩
    rw [if_pos finite, if_pos whole, wholeOf_of_exactValue? value]
  · have endless : ¬ x.isFinite = true := by
      intro finite
      obtain ⟨a, units⟩ := isFinite_iff.1 finite
      obtain ⟨rfl, within⟩ := packedValue_eq_units_iff.1 (Option.some.inj (value.symm.trans units))
      exact small within
    refine ⟨0, ?_, isFloat_of_le (by norm_num), fun floatC floatD low high =>
      absurd (between floatC floatD low high).2 small⟩
    rw [if_neg endless]

end Unary

/-! ## §3 Powers that are `Float`s -/

namespace Binary

/-- The root of a power that has few bits has few bits, for the odd part of the power is a power, too. -/
theorem OnGrid.of_pow {e k : ℕ} (onGrid : OnGrid (b ^ e * 2 ^ k)) (nonzero : e ≠ 0) : OnGrid (b * 2 ^ k) := by
  rcases eq_or_ne b 0 with rfl | base
  · rw [zero_mul]
    exact onGrid_zero
  -- the odd part `c` of the base counts: its power divides the mantissa
  obtain ⟨i, c, odd, parts⟩ := Nat.exists_eq_two_pow_mul_odd (Int.natAbs_ne_zero.2 base)
  obtain ⟨m, j, fits, size⟩ := onGrid
  rw [natAbs_scaled, Int.natAbs_pow] at size
  have divides : c ^ e ∣ m := by
    have coprime : (c ^ e).Coprime (2 ^ j) := Nat.Coprime.pow _ _ odd.coprime_two_right
    refine coprime.dvd_of_dvd_mul_right (Dvd.dvd.trans ?_ (dvd_of_eq size))
    exact Dvd.dvd.mul_right (pow_dvd_pow_of_dvd ⟨2 ^ i, by rw [parts, mul_comm]⟩ e) _
  have pos : 0 < m := by
    refine Nat.pos_of_ne_zero ?_
    rintro rfl
    rw [zero_mul] at size
    exact mul_ne_zero (pow_ne_zero _ (Int.natAbs_ne_zero.2 base)) (pow_ne_zero _ two_ne_zero) size
  refine ⟨c, i + k, ?_, ?_⟩
  · calc c ≤ c ^ e := Nat.le_self_pow nonzero c
      _ ≤ m := Nat.le_of_dvd pos divides
      _ < 2 ^ 53 := fits
  · rw [natAbs_scaled, parts, pow_add, ← mul_assoc, mul_comm c]

theorem IsFloat.of_pow {e : ℕ} (float : IsFloat (b ^ e)) (nonzero : e ≠ 0) : IsFloat b := by
  obtain ⟨onGrid, inRange⟩ := isFloat_iff_onGrid.1 float
  refine isFloat_iff_onGrid.2 ⟨onGrid.of_pow nonzero, lt_of_le_of_lt ?_ inRange⟩
  rw [natAbs_scaled, natAbs_scaled, Int.natAbs_pow]
  exact Nat.mul_le_mul_right _ (Nat.le_self_pow nonzero _)

theorem not_isFloat_pow (base : 2 ≤ b.natAbs) {e : ℕ} (large : 1024 ≤ e) : ¬ IsFloat (b ^ e) := by
  intro float
  have inRange := (isFloat_iff_onGrid.1 float).2
  rw [natAbs_scaled, Int.natAbs_pow] at inRange
  have beyond : ceiling ≤ b.natAbs ^ e * 2 ^ 1074 := by
    calc ceiling ≤ 2 ^ (e + 1074) := ceiling_le_pow (by omega)
      _ = 2 ^ e * 2 ^ 1074 := pow_add 2 e 1074
      _ ≤ b.natAbs ^ e * 2 ^ 1074 := Nat.mul_le_mul_right _ (Nat.pow_le_pow_left base e)
  exact absurd inRange (not_lt.2 beyond)

/-- A power that is a `Float` is the power of the nearest `Float`s, too, unless the sign is lost with the last digit
of the exponent. -/
theorem nearestWhole_pow (inRange : holdsInt e = true) (nonneg : 0 ≤ e) (sign : b = -1 → IsFloat e)
    (float : IsFloat (b ^ e.toNat)) : nearestWhole b ^ (nearestWhole e).toNat = b ^ e.toNat := by
  by_cases exponent : IsFloat e
  · rw [exponent]
    rcases eq_or_ne e.toNat 0 with zero | nonzero
    · rw [zero, pow_zero, pow_zero]
    · rw [float.of_pow nonzero]
  · have large : 2 ^ 53 ≤ e := by
      by_contra small
      exact exponent (isFloat_of_le (by omega))
    have rounded := natAbs_nearestWhole_ge inRange (show 2 ^ 53 ≤ e.natAbs by omega)
    have above := nearestWhole_nonneg inRange nonneg
    have small : b.natAbs < 2 := by
      by_contra base
      exact not_isFloat_pow (not_lt.1 base) (by omega) float
    rw [isFloat_of_le (show b.natAbs ≤ 2 ^ 53 by omega)]
    obtain rfl | rfl | rfl : b = 0 ∨ b = 1 ∨ b = -1 := by omega
    · rw [zero_pow (by omega), zero_pow (by omega)]
    · rw [one_pow, one_pow]
    · exact absurd (sign rfl) exponent

end Binary

/-! ## §4 What the Components Emit -/

namespace Reaction

/-- The component that raises to powers, with some way to form the power of `Float`s. -/
def exponentiationBy (pow : Float → Float → Float) (s : Stimulus) : Reaction Unit :=
  unary s fun v => Unary.powerBy pow v (s.override "SET_EXPONENT" "exponent")

theorem ofKind_exponentiation (s : Stimulus) (state : Unit) :
    ofKind s .exponentiation state = exponentiationBy Float.pow s := rfl

theorem emitted_modulo {s : Stimulus} (read : (s.input "SIGNAL_IN").reading? = some (.int n))
    (readM : (s.override "SET_MODULUS" "modulus").reading? = some (.int m)) (nonzero : m ≠ 0) :
    (ofKind s .modulo ()).emitted "SIGNAL_OUT" = .ok (.int ((nearestWhole n).tmod (nearestWhole m))) := by
  change (unary s fun v => Unary.modulo v (s.override "SET_MODULUS" "modulus")).emitted "SIGNAL_OUT" = _
  rw [emitted_unary, Unary.modulo_of_int read readM nonzero]
  rfl

/-- For whole operands a remainder is whole, and it is the exact remainder of the `Float`s nearest to them, so it is
exact if they are `Float`s themselves. A power of whole operands with an exponent that is not negative is whole, and
it is exact if and only if it is a `Float`, unless the base is minus one and the exponent is no `Float`. -/
theorem whole_results {pow : Float → Float → Float} (rounds : RoundsPowers pow) (s : Stimulus) (n p : ℤ)
    (read : (s.input "SIGNAL_IN").reading? = some (.int n)) :
    ((s.override "SET_MODULUS" "modulus").reading? = some (.int p) → p ≠ 0 →
      ∃ r, (ofKind s .modulo ()).emitted "SIGNAL_OUT" = .ok (.int r) ∧
        Unary.IsRemainder (nearestWhole n) (nearestWhole p) r ∧
        (IsFloat n → IsFloat p → Unary.IsRemainder n p r)) ∧
    ((s.override "SET_EXPONENT" "exponent").reading? = some (.int p) → 0 ≤ p →
      ∃ k, (exponentiationBy pow s).emitted "SIGNAL_OUT" = .ok (.int k) ∧
        ((n = -1 → IsFloat p) → (k = n ^ p.toNat ↔ IsFloat (n ^ p.toNat)))) := by
  constructor
  · intro readM nonzero
    have divisor := nearestWhole_ne_zero (Value.holdsInt_of_reading? readM) nonzero
    have remainder := Unary.isRemainder_tmod (nearestWhole n) divisor
    refine ⟨_, emitted_modulo read readM nonzero, remainder, fun floatN floatP => ?_⟩
    rwa [floatN, floatP] at remainder ⊢
  · intro readE nonneg
    obtain ⟨k, power, float, between⟩ := Unary.exists_powerBy rounds read readE nonneg
    refine ⟨k, ?_, fun sign => ⟨?_, fun floatPower => ?_⟩⟩
    · rw [exponentiationBy, emitted_unary, power]
      rfl
    · rintro rfl
      exact float
    · have same := nearestWhole_pow (Value.holdsInt_of_reading? readE) nonneg sign floatPower
      obtain ⟨low, high⟩ := between floatPower floatPower same.ge same.le
      exact le_antisymm high low

/-- The power of whole numbers, rounded to the nearest `Float`. -/
def nearestPower (x y : Float) : Float := ofInt (Unary.wholeOf x ^ (Unary.wholeOf y).toNat)

theorem roundsPowers_nearestPower : RoundsPowers nearestPower := by
  intro x y b e valueX valueY
  obtain ⟨r, nearest, packed⟩ := roundsTo_whole (b ^ e)
  refine ⟨r, nearest.isNextTo, ?_⟩
  rw [nearestPower, Unary.wholeOf_of_exactValue? valueX, Unary.wholeOf_of_exactValue? valueY, Int.toNat_natCast]
  exact packed

/-- The remainder of minus seven by five is minus two, and the fifth power is exact. -/
theorem whole_results_of_minus_seven :
    let s := firstStimulus [("modulus", .int 5), ("exponent", .int 5)] [("SIGNAL_IN", .int (-7))] 100.0
    (∃ r, (ofKind s .modulo ()).emitted "SIGNAL_OUT" = .ok (.int r) ∧ Unary.IsRemainder (-7) 5 r) ∧
      (exponentiationBy nearestPower s).emitted "SIGNAL_OUT" = .ok (.int ((-7) ^ 5)) := by
  intro s
  have read : (s.input "SIGNAL_IN").reading? = some (.int (-7)) := rfl
  obtain ⟨remainder, power⟩ := whole_results roundsPowers_nearestPower s (-7) 5 read
  obtain ⟨r, emitted, -, exact_r⟩ := remainder rfl (by norm_num)
  obtain ⟨k, emitted', exact_k⟩ := power rfl (by norm_num)
  refine ⟨⟨r, emitted, exact_r (isFloat_of_le (by norm_num)) (isFloat_of_le (by norm_num))⟩, ?_⟩
  rw [emitted', (exact_k fun same => absurd same (by norm_num)).2 (isFloat_of_le (by decide))]
  rfl

/-- Of an odd number of 54 bits nothing is left after division by two, and a power of 54 bits is not exact, however
it is rounded. -/
theorem whole_results_inexact :
    let s := firstStimulus [("modulus", .int 2)] [("SIGNAL_IN", .int (2 ^ 53 + 1))] 100.0
    let s' := firstStimulus [("exponent", .int 34)] [("SIGNAL_IN", .int 3)] 100.0
    ((s.input "SIGNAL_IN").reading? = some (.int (2 ^ 53 + 1)) ∧
      (s.override "SET_MODULUS" "modulus").reading? = some (.int 2) ∧
      (ofKind s .modulo ()).emitted "SIGNAL_OUT" = .ok (.int 0) ∧
      ¬ Unary.IsRemainder (2 ^ 53 + 1) 2 0) ∧
    ∀ pow, RoundsPowers pow → ∃ k,
      (exponentiationBy pow s').emitted "SIGNAL_OUT" = .ok (.int k) ∧ k ≠ 0 ∧ k ≠ 3 ^ 34 := by
  intro s s'
  refine ⟨⟨rfl, rfl, ?_, fun remainder => ?_⟩, fun pow rounds => ?_⟩
  · have rounded : nearestWhole (2 ^ 53 + 1) = 2 ^ 53 := by decide +kernel
    rw [emitted_modulo (n := 2 ^ 53 + 1) (m := 2) rfl rfl (by norm_num), rounded,
      isFloat_of_le (show (2 : ℤ).natAbs ≤ 2 ^ 53 by norm_num)]
    rfl
  · have := remainder.divides
    omega
  · have read : (s'.input "SIGNAL_IN").reading? = some (.int 3) := rfl
    have readE : (s'.override "SET_EXPONENT" "exponent").reading? = some (.int 34) := rfl
    obtain ⟨k, power, float, between⟩ := Unary.exists_powerBy rounds read readE (by norm_num)
    refine ⟨k, ?_, ?_, ?_⟩
    · rw [exponentiationBy, emitted_unary, power]
      rfl
    · have base : nearestWhole 3 = 3 := isFloat_of_le (by norm_num)
      have exponent : nearestWhole 34 = 34 := isFloat_of_le (by norm_num)
      rw [base, exponent] at between
      have above := (between (c := 1) (d := 2 ^ 54) (isFloat_of_le (by norm_num)) (by decide +kernel) (by decide)
        (by decide)).1
      omega
    · rintro rfl
      exact absurd float (by decide +kernel)

end Reaction

end TickCircuit

import Mathlib.Tactic
import TickCircuit.Number.Binary

/-!
# Whole Numbers within the Range of Finite `Float`s

The nearest `Float` to a whole number is an infinity only if rounding leads beyond the greatest
exponent, which is 971. Rounding shifts a magnitude to the right until 53 bits are left, and once more
if it carries into a 54th (`round_of_large`). The magnitudes that stay within the range are those below
`2^1024 - 2^970` (`holdsInt_iff`).
-/

namespace TickCircuit.Binary

open Float.Model Float.Model.UnpackedFloat

/-! ## §1 Shifts -/

theorem mantissa_shiftRight (m : ExtendedMantissa) (k : Nat) :
    (m >>> k).mantissa = m.mantissa / 2 ^ k := by
  induction k with
  | zero => exact (Nat.div_one _).symm
  | succ k ih =>
    change (m >>> k).mantissa / 2 = _
    rw [ih, Nat.div_div_eq_div_mul, pow_succ]

theorem roundedMantissa_bounds (m : ExtendedMantissa) :
    m.mantissa ≤ m.roundedMantissa ∧ m.roundedMantissa ≤ m.mantissa + 1 := by
  obtain ⟨mantissa, round, sticky⟩ := m
  have parity := Nat.mod_lt mantissa two_pos
  cases round <;> cases sticky <;>
    simp only [ExtendedMantissa.roundedMantissa, ExtendedMantissa.accuracy,
      Accuracy.roundToNearestEven] <;> omega

/-- Of 54 bits, all of them ones carry when the last one is rounded away, and no others. -/
theorem roundedMantissa_shiftRightOne_lt {m : ExtendedMantissa} (h : m.mantissa < 2 ^ 54) :
    m.shiftRightOne.roundedMantissa < 2 ^ 53 ↔ m.mantissa < 2 ^ 54 - 1 := by
  obtain ⟨mantissa, round, sticky⟩ := m
  dsimp only at h
  unfold ExtendedMantissa.shiftRightOne ExtendedMantissa.roundedMantissa
  dsimp only
  rcases Nat.mod_two_eq_zero_or_one mantissa with even | odd
  · rw [even]
    cases round || sticky <;>
      simp only [bne_self_eq_false, ExtendedMantissa.accuracy, Accuracy.roundToNearestEven] <;> omega
  · rw [odd, show ((1 : Nat) != 0) = true from rfl]
    cases round || sticky <;>
      simp only [ExtendedMantissa.accuracy, Accuracy.roundToNearestEven] <;> omega

/-- The exponent that a magnitude is shifted to. -/
theorem targetExponent_eq (m : Nat) (e : Int) :
    Format.binary64.targetExponent (totalExponent m e) = max (m.log2 + e - 52) (-1074) := by
  have bits : ((Format.binary64.mantissaBits : Nat) : Int) = 53 := rfl
  have least : Format.binary64.minExponent = -1074 := rfl
  rw [Format.targetExponent, totalExponent, bits, least]
  omega

theorem shiftToTargetExponent_snd (m : Nat) (e : Int) :
    (shiftToTargetExponent .binary64 m e .exact).2 = max e (max (m.log2 + e - 52) (-1074)) := by
  unfold shiftToTargetExponent shiftToExponent
  dsimp only
  rw [targetExponent_eq]
  omega

theorem shiftToTargetExponent_fst (m : Nat) (e : Int) :
    (shiftToTargetExponent .binary64 m e .exact).1 =
      (⟨m, false, false⟩ : ExtendedMantissa) >>>
        (max ((m.log2 : Int) + e - 52) (-1074) - e).toNat := by
  unfold shiftToTargetExponent shiftToExponent
  dsimp only
  rw [targetExponent_eq]
  rfl

/-- After the shift to the target exponent 53 bits are left. -/
theorem shiftToTargetExponent_lt (m : Nat) (e : Int) :
    (shiftToTargetExponent .binary64 m e .exact).1.mantissa < 2 ^ 53 := by
  rw [shiftToTargetExponent_fst, mantissa_shiftRight]
  -- all that matters about the shift is that it leaves no more than 53 bits
  generalize shift : (max ((m.log2 : Int) + e - 52) (-1074) - e).toNat = k
  have width : m.log2 + 1 ≤ k + 53 := by omega
  refine Nat.div_lt_of_lt_mul ?_
  rw [← pow_add]
  calc m < 2 ^ (m.log2 + 1) := Nat.lt_log2_self
    _ ≤ 2 ^ (k + 53) := Nat.pow_le_pow_right two_pos width

/-! ## §2 Rounding -/

/-- Rounding comes to the target exponent of what the first shift and the carry have left. -/
theorem roundWithAccuracy_cases (s : Sign) (m : Nat) (e : Int) :
    let first := shiftToTargetExponent .binary64 m e .exact
    first.1.roundedMantissa.log2 ≤ 53 ∧
      (first.1.roundedMantissa < 2 ∧ roundWithAccuracy .binary64 s m e .exact = .zero s ∨
        ∃ m' pos, roundWithAccuracy .binary64 s m e .exact =
          .finite s m' (max first.2 (max (first.1.roundedMantissa.log2 + first.2 - 52) (-1074))) pos) := by
  have small := shiftToTargetExponent_lt m e
  have exponent := shiftToTargetExponent_snd m e
  unfold roundWithAccuracy
  generalize shiftToTargetExponent .binary64 m e .exact = first at small exponent ⊢
  obtain ⟨em, e₁⟩ := first
  dsimp only at small exponent ⊢
  -- rounding may carry into a 54th bit, but no further
  have carried : em.roundedMantissa.log2 ≤ 53 := by
    have bound := (roundedMantissa_bounds em).2
    by_cases zero : em.roundedMantissa = 0
    · rw [zero]
      decide
    · have : em.roundedMantissa.log2 < 54 := (Nat.log2_lt zero).2 (by omega)
      omega
  refine ⟨carried, ?_⟩
  have again := shiftToTargetExponent_snd em.roundedMantissa e₁
  have left := congrArg ExtendedMantissa.mantissa (shiftToTargetExponent_fst em.roundedMantissa e₁)
  rw [mantissa_shiftRight] at left
  generalize shiftToTargetExponent .binary64 em.roundedMantissa e₁ .exact = second at again left ⊢
  obtain ⟨em', e₂⟩ := second
  dsimp only at again left ⊢
  subst again
  by_cases zero : em'.mantissa = 0
  · refine .inl ⟨?_, dif_pos zero⟩
    rw [zero] at left
    have step : (max ((em.roundedMantissa.log2 : Int) + e₁ - 52) (-1074) - e₁).toNat ≤ 1 := by omega
    calc em.roundedMantissa < 2 ^ _ := (Nat.div_eq_zero_iff.1 left.symm).resolve_left (by positivity)
      _ ≤ 2 ^ 1 := Nat.pow_le_pow_right two_pos step
  · exact .inr ⟨em'.mantissa, Nat.pos_of_ne_zero zero, dif_neg zero⟩

/-- Rounding takes the exponent at most one step beyond the target exponent. -/
theorem exponent_roundWithAccuracy (s : Sign) (m : Nat) (e : Int) :
    roundWithAccuracy .binary64 s m e .exact = .zero s ∨
      ∃ m' e' pos, roundWithAccuracy .binary64 s m e .exact = .finite s m' e' pos ∧
        e' ≤ max e (max (m.log2 + e - 52) (-1074)) + 1 := by
  obtain ⟨carried, zero | ⟨m', pos, finite⟩⟩ := roundWithAccuracy_cases s m e
  · exact .inl zero.2
  · refine .inr ⟨m', _, pos, finite, ?_⟩
    rw [shiftToTargetExponent_snd]
    omega

/-- A magnitude of more than 52 bits becomes one of 53 bits, unless it carries. -/
theorem round_of_large (s : Sign) {m : Nat} (large : 2 ^ 52 ≤ m) :
    ∃ m' pos, UnpackedFloat.round .binary64 s m 0 =
      .finite s m' (m.log2 - 52 +
        if ((⟨m, false, false⟩ : ExtendedMantissa) >>> (m.log2 - 52)).roundedMantissa < 2 ^ 53
        then 0 else 1) pos := by
  have wide : 52 ≤ m.log2 := by
    by_contra narrow
    have := (Nat.log2_lt (n := m) (k := 52) (by omega)).1 (by omega)
    omega
  -- a magnitude that wide is not shifted to the left first
  have round : UnpackedFloat.round .binary64 s m 0 = roundWithAccuracy .binary64 s m 0 .exact := by
    unfold UnpackedFloat.round decreaseExponent
    dsimp only
    rw [targetExponent_eq, show (0 - max ((m.log2 : Int) + 0 - 52) (-1074)).toNat = 0 by omega]
    rfl
  have first := shiftToTargetExponent_fst m 0
  have exponent := shiftToTargetExponent_snd m 0
  have small := shiftToTargetExponent_lt m 0
  rw [show (max ((m.log2 : Int) + 0 - 52) (-1074) - 0).toNat = m.log2 - 52 by omega] at first
  rw [round]
  obtain ⟨-, result⟩ := roundWithAccuracy_cases s m 0
  rw [exponent, first] at result
  rw [first] at small
  -- the shift leaves 53 bits and no fewer, so the first case is out
  have full : 2 ^ 52 ≤ ((⟨m, false, false⟩ : ExtendedMantissa) >>> (m.log2 - 52)).mantissa := by
    rw [mantissa_shiftRight, Nat.le_div_iff_mul_le (by positivity), ← pow_add,
      show 52 + (m.log2 - 52) = m.log2 by omega]
    exact Nat.log2_self_le (by omega)
  generalize (⟨m, false, false⟩ : ExtendedMantissa) >>> (m.log2 - 52) = em at result small full ⊢
  have bounds := roundedMantissa_bounds em
  have nonzero : em.roundedMantissa ≠ 0 := by omega
  rcases result with ⟨tiny, -⟩ | ⟨m', pos, finite⟩
  · omega
  refine ⟨m', pos, finite.trans (congrArg (UnpackedFloat.finite s m' · pos) ?_)⟩
  -- the exponent goes with the number of bits, which is 53 or, after a carry, 54
  have bits : em.roundedMantissa.log2 = if em.roundedMantissa < 2 ^ 53 then 52 else 53 := by
    rw [Nat.log2_eq_iff nonzero]
    split <;> omega
  rw [bits]
  split <;> omega

/-! ## §3 Packing -/

/-- An exponent of ones is set aside for the infinities and for what is no number. -/
theorem isFinite_unpack {spec : Format} (b : BitVec spec.numBits) :
    (UnpackedFloat.unpack spec b).isFinite = true ↔ unpackExponent b ≠ -1#_ := by
  unfold UnpackedFloat.unpack
  dsimp only
  by_cases special : unpackExponent b = -1#_
  · rw [if_pos special]
    refine iff_of_false ?_ fun regular => regular special
    split <;> exact Bool.false_ne_true
  · rw [if_neg special]
    refine iff_of_true ?_ special
    by_cases least : unpackExponent b = 0#_
    · rw [if_pos least]
      by_cases nothing : unpackMantissa b = 0#_
      · rw [dif_pos nothing]
        rfl
      · rw [dif_neg nothing]
        rfl
    · rw [if_neg least]
      rfl

theorem isFinite_pack_finite (s : Sign) (m : Nat) {e : Int} (pos : 0 < m) :
    (Float.Model.pack (.finite s m e pos)).isFinite = true ↔ e ≤ 971 := by
  have bias : ((Format.binary64.exponentBias : Nat) : Int) = 1023 := rfl
  have width : ((Format.binary64.mantissaBitsWithoutImplicit : Nat) : Int) = 52 := rfl
  -- packed components are finite unless all bits of the exponent are set
  have unpacked (exponent : BitVec 11) (mantissa : BitVec 52) :
      (UnpackedFloat.unpack .binary64 (packComponents .binary64 s exponent mantissa)).isFinite =
        true ↔ exponent ≠ -1#_ := by
    rw [isFinite_unpack, unpackExponent_packComponents]
  change (UnpackedFloat.unpack .binary64 (UnpackedFloat.pack .binary64 (.finite s m e pos))).isFinite =
    true ↔ _
  unfold UnpackedFloat.pack
  dsimp only
  rw [bias, width]
  split
  · next beyond =>
    have large : ¬ e ≤ 971 := by
      change 2 ^ 11 ≤ _ at beyond
      omega
    exact iff_of_false (fun h => (unpacked _ _).1 h rfl) large
  · next within =>
    have small : e ≤ 971 := by
      change ¬ 2 ^ 11 ≤ _ at within
      omega
    refine iff_of_true ?_ small
    split
    · -- the exponent as it is written is too small to be the one that is set aside
      refine (unpacked _ _).2 fun h => ?_
      have bits := congrArg BitVec.toNat h
      change (e + 1023 + 52).toNat % 2 ^ 11 = 2 ^ 11 - 1 at bits
      omega
    · exact (unpacked _ _).2 (by decide)

/-! ## §4 The Edge of the Range -/

/-- All magnitudes below the greatest power of two in the range are well within it. -/
theorem isFinite_round_of_lt (s : Sign) {m : Nat} (h : m < 2 ^ 1023) :
    (Float.Model.pack (UnpackedFloat.round .binary64 s m 0)).isFinite = true := by
  unfold UnpackedFloat.round decreaseExponent
  dsimp only
  generalize (0 - Format.binary64.targetExponent (totalExponent m 0)).toNat = k
  have narrow : (m <<< k).log2 ≤ 1022 + k := by
    by_cases zero : m <<< k = 0
    · rw [zero]
      exact Nat.zero_le _
    · refine Nat.le_of_lt_succ ((Nat.log2_lt zero).2 ?_)
      rw [Nat.shiftLeft_eq, show (1022 + k).succ = 1023 + k by omega, pow_add]
      exact Nat.mul_lt_mul_of_pos_right h (by positivity)
  rcases exponent_roundWithAccuracy s (m <<< k) (0 - k) with zero | ⟨m', e', pos, finite, bound⟩
  · rw [zero]
    cases s <;> rfl
  · rw [finite]
    exact (isFinite_pack_finite s m' pos).2 (by omega)

/-- Above it the carry decides. -/
theorem isFinite_round_iff_of_le (s : Sign) {m : Nat} (h : 2 ^ 1023 ≤ m) :
    (Float.Model.pack (UnpackedFloat.round .binary64 s m 0)).isFinite = true ↔
      m < (2 ^ 54 - 1) * 2 ^ 970 := by
  have wide : 52 ≤ 1023 := by decide
  obtain ⟨m', pos, rounded⟩ := round_of_large s ((pow_le_pow_right₀ one_le_two wide).trans h)
  have nonzero : m ≠ 0 := Nat.ne_of_gt (lt_of_lt_of_le (by positivity) h)
  rw [rounded, isFinite_pack_finite]
  have width (k : Nat) : k ≤ m.log2 ↔ 2 ^ k ≤ m := Nat.le_log2 nonzero
  have least : 1023 ≤ m.log2 := (width 1023).2 h
  have top : (2 : Nat) ^ 1024 = 2 ^ 970 * 2 ^ 54 := by
    rw [show 1024 = 970 + 54 from rfl, pow_add]
  rcases Nat.lt_or_ge m (2 ^ 1024) with inside | beyond
  · have bits : m.log2 = 1023 := by
      have := mt (width 1024).1 (Nat.not_le.2 inside)
      omega
    have shifted : (⟨m, false, false⟩ : ExtendedMantissa) >>> 971 =
        ((⟨m, false, false⟩ : ExtendedMantissa) >>> 970).shiftRightOne := rfl
    have mantissa := mantissa_shiftRight ⟨m, false, false⟩ 970
    have room : m / 2 ^ 970 < 2 ^ 54 := by
      rw [top] at inside
      exact Nat.div_lt_of_lt_mul inside
    rw [bits, shifted]
    -- of the 54 bits that are left before the last shift, all are ones or rounding does not carry
    rw [← mantissa] at room
    have carry := roundedMantissa_shiftRightOne_lt room
    rw [mantissa, Nat.div_lt_iff_lt_mul (by positivity)] at carry
    rw [← carry]
    split <;> omega
  · have large : 1024 ≤ m.log2 := (width 1024).2 beyond
    rw [top, mul_comm] at beyond
    refine iff_of_false (by split <;> omega) (Nat.not_lt.2 (le_trans ?_ beyond))
    exact Nat.mul_le_mul_right _ (Nat.sub_le _ _)

/-- A whole number is within the range of finite `Float`s if it is nearer to the greatest of them than
to the next power of two. -/
theorem holdsInt_iff {n : Int} : holdsInt n = true ↔ n.natAbs < 2 ^ 1024 - 2 ^ 970 := by
  have edge : 2 ^ 1024 - 2 ^ 970 = (2 ^ 54 - 1) * 2 ^ 970 := by
    rw [Nat.sub_one_mul, ← pow_add]
  have rounded (s : Sign) (m : Nat) :
      (Float.Model.pack (UnpackedFloat.round .binary64 s m 0)).isFinite = true ↔
        m < 2 ^ 1024 - 2 ^ 970 := by
    rw [edge]
    rcases Nat.lt_or_ge m (2 ^ 1023) with below | above
    · refine iff_of_true (isFinite_round_of_lt s below) (lt_of_lt_of_le below ?_)
      calc 2 ^ 1023 = 2 ^ 53 * 2 ^ 970 := pow_add 2 53 970
        _ ≤ (2 ^ 54 - 1) * 2 ^ 970 := Nat.mul_le_mul_right _ (by norm_num)
    · exact isFinite_round_iff_of_le s above
  change (Float.Model.ofInt n).isFinite = true ↔ _
  unfold Float.Model.ofInt UnpackedFloat.ofInt UnpackedFloat.normalize
  split
  · next negative =>
    rw [rounded, show (-n).toNat = n.natAbs by have := Int.compare_eq_lt.1 negative; omega]
  · next zero =>
    rw [Int.compare_eq_eq.1 zero, edge]
    exact iff_of_true rfl (by positivity)
  · next positive =>
    rw [rounded, show n.toNat = n.natAbs by have := Int.compare_eq_gt.1 positive; omega]

end TickCircuit.Binary

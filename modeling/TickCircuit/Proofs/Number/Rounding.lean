import Mathlib
import TickCircuit.Proofs.Number.Exact
import TickCircuit.Proofs.Number.Range

/-!
# Numbers that Need No Rounding

A `Float` other than zero is determined by its exact value (`eq_of_exactValue?`). A whole number that has
the exact value of a `Float` is rounded to that `Float` (`ofInt_of_exactValue?`): its magnitude, shifted to
53 bits, loses nothing.
-/

namespace TickCircuit

theorem Exact.units_injective : Function.Injective Exact.units :=
  WithBot.coe_injective.comp WithTop.coe_injective

theorem Exact.units_ne_top (n : ℤ) : Exact.units n ≠ ⊤ :=
  fun h => WithTop.coe_ne_top (WithBot.coe_injective h)

theorem Exact.units_ne_bot (n : ℤ) : Exact.units n ≠ ⊥ := WithBot.coe_ne_bot

theorem Exact.ofInt_zero : Exact.ofInt 0 = .units 0 := congrArg Exact.units (zero_mul _)

namespace Binary

open Float.Model Float.Model.UnpackedFloat

/-! ## §1 Exact Values Determine `Float`s -/

theorem eq_of_unpack {x y : Float} (h : x.toModel.unpack = y.toModel.unpack) : x = y := by
  obtain ⟨⟨⟨x⟩, validX⟩⟩ := x
  obtain ⟨⟨⟨y⟩, validY⟩⟩ := y
  have bits : x = y := (unpack_inj_of_valid validX validY).1 h
  subst bits
  rfl

theorem ofModel_pack_unpack (x : Float) : Float.ofModel (.pack x.toModel.unpack) = x := by
  obtain ⟨⟨⟨b⟩, valid⟩⟩ := x
  have packed : UnpackedFloat.pack .binary64 (UnpackedFloat.unpack .binary64 b) = b :=
    pack_unpack_of_valid valid
  unfold Float.Model.pack Float.Model.unpack
  simp only [packed]

/-- Canonical magnitudes of the same size have the same mantissa and the same exponent. -/
theorem Canonical.eq_of_scaled {m m' : Nat} {e e' : Int} (h : Canonical m e) (h' : Canonical m' e')
    (same : m * 2 ^ (e + 1074).toNat = m' * 2 ^ (e' + 1074).toNat) : m = m' ∧ e = e' := by
  have equal := h.compare_scaled h'
  rw [compare_eq_iff_eq.2 (by exact_mod_cast same), eq_comm, Ordering.then_eq_eq] at equal
  exact ⟨compare_eq_iff_eq.1 equal.2, compare_eq_iff_eq.1 equal.1⟩

/-- Apart from zeros, an exact value has one form. -/
theorem eq_of_exactOf {f g : UnpackedFloat} {u : Exact} (hf : exactOf f = some u)
    (hg : exactOf g = some u) (nonzero : u ≠ .units 0)
    (canonicalF : ∀ s m e pos, f = .finite s m e pos → Canonical m e)
    (canonicalG : ∀ s m e pos, g = .finite s m e pos → Canonical m e) : f = g := by
  have same := hf.trans hg.symm
  cases f with
  | notANumber => cases hf
  | zero s => exact absurd (Option.some.inj hf).symm nonzero
  | infinity s =>
    -- an infinity lies beyond all units, on the side of its sign
    cases g with
    | notANumber => cases hg
    | zero t => exact absurd (Option.some.inj hg).symm nonzero
    | infinity t => cases s <;> cases t <;> first | rfl | simp [exactOf] at same
    | finite t m' e' pos' =>
      cases s
      · exact absurd (Option.some.inj same).symm (Exact.units_ne_bot _)
      · exact absurd (Option.some.inj same).symm (Exact.units_ne_top _)
  | finite s m e pos =>
    cases g with
    | notANumber => cases hg
    | zero t => exact absurd (Option.some.inj hg).symm nonzero
    | infinity t =>
      cases t
      · exact absurd (Option.some.inj same) (Exact.units_ne_bot _)
      · exact absurd (Option.some.inj same) (Exact.units_ne_top _)
    | finite t m' e' pos' =>
      have positive := magnitude_pos pos e
      have positive' := magnitude_pos pos' e'
      have scaled := (canonicalF s m e pos rfl).eq_of_scaled (canonicalG t m' e' pos' rfl)
      cases s <;> cases t <;>
        simp only [exactOf_positive, exactOf_negative, Option.some.injEq,
          Exact.units_injective.eq_iff] at same
      · obtain ⟨rfl, rfl⟩ := scaled (by exact_mod_cast neg_injective same)
        rfl
      · omega
      · omega
      · obtain ⟨rfl, rfl⟩ := scaled (by exact_mod_cast same)
        rfl

/-- `Float`s of the same exact value are the same, if they are no zeros. -/
theorem eq_of_exactValue? {x y : Float} {u : Exact} (hx : exactValue? x = some u)
    (hy : exactValue? y = some u) (nonzero : u ≠ .units 0) : x = y :=
  eq_of_unpack (eq_of_exactOf hx hy nonzero (fun _ _ _ _ h => canonical_of_unpack h)
    fun _ _ _ _ h => canonical_of_unpack h)

/-! ## §2 Exact Shifts -/

/-- Bits that are zeros can be shifted out without a trace. -/
theorem shiftRight_scaled (m j : Nat) :
    (⟨m * 2 ^ j, false, false⟩ : ExtendedMantissa) >>> j = ⟨m, false, false⟩ := by
  induction j generalizing m with
  | zero => rw [pow_zero, mul_one]; rfl
  | succ j ih =>
    change ((⟨m * 2 ^ (j + 1), false, false⟩ : ExtendedMantissa) >>> j).shiftRightOne = _
    rw [pow_succ', ← mul_assoc, ih (m * 2)]
    simp [ExtendedMantissa.shiftRightOne]

theorem log2_scaled {m : Nat} (pos : 0 < m) (j : Nat) : (m * 2 ^ j).log2 = m.log2 + j := by
  rw [Nat.log2_eq_iff (Nat.mul_ne_zero pos.ne' (by positivity)), show m.log2 + j + 1 =
    m.log2 + 1 + j by omega, pow_add, pow_add]
  exact ⟨Nat.mul_le_mul_right _ (Nat.log2_self_le pos.ne'),
    Nat.mul_lt_mul_of_pos_right Nat.lt_log2_self (by positivity)⟩

theorem log2_of_full {m : Nat} (full : 2 ^ 52 ≤ m) (fits : m < 2 ^ 53) : m.log2 = 52 :=
  (Nat.log2_eq_iff (by omega)).2 ⟨full, fits⟩

theorem shiftToTargetExponent_scaled {m : Nat} (full : 2 ^ 52 ≤ m) (fits : m < 2 ^ 53) {e : Int}
    (least : -1074 ≤ e) (j : Nat) :
    shiftToTargetExponent .binary64 (m * 2 ^ j) (e - j) .exact = (⟨m, false, false⟩, e) := by
  have bits : (m * 2 ^ j).log2 = 52 + j := by rw [log2_scaled (by omega), log2_of_full full fits]
  have shift : (max (((m * 2 ^ j).log2 : Int) + (e - j) - 52) (-1074) - (e - j)).toNat = j := by omega
  refine Prod.ext ?_ ?_
  · rw [shiftToTargetExponent_fst, shift, shiftRight_scaled]
  · rw [shiftToTargetExponent_snd]
    dsimp only
    omega

/-- A magnitude that has 53 bits once trailing zeros are dropped is rounded to these bits. -/
theorem roundWithAccuracy_scaled (s : Sign) {m : Nat} (full : 2 ^ 52 ≤ m) (fits : m < 2 ^ 53) {e : Int}
    (least : -1074 ≤ e) (j : Nat) :
    roundWithAccuracy .binary64 s (m * 2 ^ j) (e - j) .exact = .finite s m e (by omega) := by
  -- rounding shifts twice, and the second time there is nothing left to shift out
  have again := shiftToTargetExponent_scaled full fits least 0
  rw [pow_zero, mul_one, Nat.cast_zero, sub_zero] at again
  have whole : (⟨m, false, false⟩ : ExtendedMantissa).roundedMantissa = m := rfl
  unfold roundWithAccuracy
  rw [shiftToTargetExponent_scaled full fits least j]
  dsimp only
  rw [whole]
  simp only [again]
  exact dif_neg (by omega)

/-! ## §3 Whole Numbers -/

section Whole

variable {N m : Nat} {e : Int}

/-- The canonical form of a whole number has the mantissa in full, and its exponent goes with the number
of bits. -/
theorem Canonical.of_whole (canonical : Canonical m e) (posN : 0 < N) (posM : 0 < m)
    (same : m * 2 ^ (e + 1074).toNat = N * 2 ^ 1074) :
    2 ^ 52 ≤ m ∧ (N.log2 : Int) = 52 + e ∧ m * 2 ^ e.toNat = N * 2 ^ (-e).toNat := by
  have bits := congrArg Nat.log2 same
  rw [log2_scaled posM, log2_scaled posN] at bits
  have narrow : m.log2 < 53 := (Nat.log2_lt posM.ne').2 canonical.fits
  have full := canonical.full (by omega)
  rw [log2_of_full full canonical.fits] at bits
  refine ⟨full, by omega, ?_⟩
  -- what both sides are multiplied by is cancelled, on the left if there are no fractional bits
  rcases Int.le_total 0 e with whole | fraction
  · rw [show (e + 1074).toNat = e.toNat + 1074 by omega, pow_add, ← mul_assoc] at same
    rw [Nat.eq_of_mul_eq_mul_right (by positivity) same, show (-e).toNat = 0 by omega, pow_zero, mul_one]
  · rw [show 1074 = (-e).toNat + (e + 1074).toNat by omega, pow_add, ← mul_assoc] at same
    rw [show e.toNat = 0 by omega, pow_zero, mul_one]
    exact Nat.eq_of_mul_eq_mul_right (by positivity) same

/-- A whole magnitude that has a canonical form is rounded to it. -/
theorem Canonical.round_whole (canonical : Canonical m e) (posN : 0 < N) (posM : 0 < m)
    (same : m * 2 ^ (e + 1074).toNat = N * 2 ^ 1074) (s : Sign) :
    UnpackedFloat.round .binary64 s N 0 = .finite s m e posM := by
  obtain ⟨full, bits, scaled⟩ := canonical.of_whole posN posM same
  have target : Format.binary64.targetExponent (totalExponent N 0) = e := by
    rw [targetExponent_eq]
    have := canonical.least
    omega
  unfold UnpackedFloat.round decreaseExponent
  dsimp only
  rw [target, zero_sub, Nat.shiftLeft_eq, ← scaled, ← zero_sub,
    show (0 : Int) - (0 - e).toNat = e - e.toNat by omega]
  exact roundWithAccuracy_scaled s full canonical.fits canonical.least e.toNat

end Whole

theorem magnitude_of_scaled {s : Sign} {m j k : Nat} {n : Int}
    (scaled : s.apply (m : Int) * 2 ^ j = n * 2 ^ k) : m * 2 ^ j = n.natAbs * 2 ^ k := by
  have magnitude : (s.apply (m : Int)).natAbs = m := by cases s <;> simp [Sign.apply]
  have sizes := congrArg Int.natAbs scaled
  rwa [Int.natAbs_mul, Int.natAbs_mul, Int.natAbs_pow, Int.natAbs_pow, magnitude] at sizes

/-- A whole number other than zero that is the exact value of a `Float` is rounded to it. -/
theorem ofInt_of_exactValue? {x : Float} {n : Int} (nonzero : n ≠ 0)
    (value : exactValue? x = some (.ofInt n)) : ofInt n = x := by
  unfold exactValue? at value
  cases form : x.toModel.unpack with
  | notANumber =>
    rw [form] at value
    cases value
  | zero s =>
    rw [form] at value
    have zero : 0 = n * 2 ^ 1074 := Exact.units_injective (Option.some.inj value)
    exact absurd zero.symm (mul_ne_zero nonzero (by positivity))
  | infinity s =>
    rw [form] at value
    cases s
    · exact absurd (Option.some.inj value).symm (Exact.units_ne_bot _)
    · exact absurd (Option.some.inj value).symm (Exact.units_ne_top _)
  | finite s m e pos =>
    have canonical := canonical_of_unpack form
    have scaled : s.apply m * 2 ^ (e + 1074).toNat = n * 2 ^ 1074 := by
      rw [form] at value
      exact Exact.units_injective (Option.some.inj value)
    have size := magnitude_of_scaled scaled
    -- the branch in which `n` is normalised is the one of the sign of `x`
    have sign : compare n 0 = compare (s.apply m) 0 :=
      calc compare n 0 = compare (n * 2 ^ 1074) (0 * 2 ^ 1074) :=
            (compare_mul_right n 0 (by positivity)).symm
        _ = compare (s.apply m * 2 ^ (e + 1074).toNat) (0 * 2 ^ (e + 1074).toNat) := by
            rw [scaled, zero_mul, zero_mul]
        _ = compare (s.apply m) 0 := compare_mul_right _ _ (by positivity)
    have round := canonical.round_whole (Int.natAbs_pos.2 nonzero) pos size
    have rounded : UnpackedFloat.ofInt .binary64 n = .finite s m e pos := by
      unfold UnpackedFloat.ofInt UnpackedFloat.normalize
      rw [sign]
      cases s with
      | positive =>
        have above : compare (m : ℤ) 0 = .gt := compare_gt_iff_gt.2 (by omega)
        rw [Sign.apply, above] at sign ⊢
        rw [← round, show n.toNat = n.natAbs by have := compare_gt_iff_gt.1 sign; omega]
      | negative =>
        have below : compare (-(m : ℤ)) 0 = .lt := compare_lt_iff_lt.2 (by omega)
        rw [Sign.apply, below] at sign ⊢
        rw [← round, show (-n).toNat = n.natAbs by have := compare_lt_iff_lt.1 sign; omega]
    change Float.ofModel (.pack (UnpackedFloat.ofInt .binary64 n)) = x
    rw [rounded, ← form, ofModel_pack_unpack]

/-! ## §4 Positive Numbers -/

theorem zero_lt_iff {x : Float} : 0.0 < x ↔ ∃ u, exactValue? x = some u ∧ .units 0 < u := by
  have zero : exactValue? 0.0 = some (.units 0) := by rfl
  have below : 0.0 < x ↔ Number.compareFloats? 0.0 x = some .lt := by
    unfold Number.compareFloats?
    split
    · next less => simpa using less
    · next notLess =>
      refine iff_of_false notLess ?_
      split
      · simp
      · split <;> simp
  rw [below, compareFloats?_eq_exact, zero]
  cases exactValue? x with
  | none => simp
  | some u => simp [compare_lt_iff_lt]

theorem exactOf_pos_of_infinity : ∃ u, exactOf (.infinity .positive) = some u ∧ .units 0 < u :=
  ⟨⊤, rfl, WithBot.coe_lt_coe.2 (WithTop.coe_lt_top 0)⟩

theorem exactOf_pos_of_finite (m : Nat) (e : Int) (pos : 0 < m) :
    ∃ u, exactOf (.finite .positive m e pos) = some u ∧ .units 0 < u := by
  have positive := magnitude_pos pos e
  exact ⟨_, exactOf_positive m e pos, WithBot.coe_lt_coe.2 (WithTop.coe_lt_coe.2 positive)⟩

/-- Components that spell neither a zero nor what is no number spell a positive number. -/
theorem exactOf_packComponents_pos {spec : Format} {exponent : BitVec spec.exponentBits}
    {mantissa : BitVec spec.mantissaBitsWithoutImplicit}
    (number : exponent = -1#_ → mantissa = 0#_) (nonzero : exponent = 0#_ → mantissa ≠ 0#_) :
    ∃ u, exactOf (UnpackedFloat.unpack spec
      (packComponents spec .positive exponent mantissa)) = some u ∧ .units 0 < u := by
  have sign : Sign.ofBitVec Sign.positive.toBitVec = .positive := rfl
  unfold UnpackedFloat.unpack
  dsimp only
  simp only [unpackExponent_packComponents, unpackMantissa_packComponents, unpackSign_packComponents, sign]
  split
  · next special =>
    rw [if_pos (number special)]
    exact exactOf_pos_of_infinity
  · split
    · next least =>
      rw [dif_neg (nonzero least)]
      exact exactOf_pos_of_finite ..
    · exact exactOf_pos_of_finite ..

/-- What rounding leaves of a positive number is packed as one. -/
theorem pack_pos {m : Nat} {e : Int} (pos : 0 < m) (fits : m < 2 ^ 53) (least : -1074 ≤ e) :
    0.0 < Float.ofModel (.pack (.finite .positive m e pos)) := by
  rw [zero_lt_iff]
  change ∃ u, exactOf (UnpackedFloat.unpack .binary64 (UnpackedFloat.pack .binary64
    (.finite .positive m e pos))) = some u ∧ _
  have bias : ((Format.binary64.exponentBias : Nat) : Int) = 1023 := rfl
  have width : ((Format.binary64.mantissaBitsWithoutImplicit : Nat) : Int) = 52 := rfl
  unfold UnpackedFloat.pack
  dsimp only
  rw [bias, width]
  -- an exponent beyond the greatest gives an infinity, which is positive too
  split
  · exact exactOf_packComponents_pos (fun _ => rfl) (fun zero => absurd zero (by decide))
  · next within =>
    change ¬ 2 ^ 11 ≤ _ at within
    split
    · -- the exponent as it is written is neither all zeros nor all ones
      refine exactOf_packComponents_pos (fun ones => ?_) (fun zero => ?_)
      · have bits := congrArg BitVec.toNat ones
        change (e + 1023 + 52).toNat % 2 ^ 11 = 2 ^ 11 - 1 at bits
        omega
      · have bits := congrArg BitVec.toNat zero
        change (e + 1023 + 52).toNat % 2 ^ 11 = 0 at bits
        omega
    · next short =>
      refine exactOf_packComponents_pos (fun ones => absurd ones (by decide)) (fun _ zero => ?_)
      have bits := congrArg BitVec.toNat zero
      change m % 2 ^ 52 = 0 at bits
      change ¬ m.log2 + 1 = 53 at short
      have full : 2 ^ 52 ≤ m := by omega
      exact short (by rw [log2_of_full full fits])

/-- Rounding leaves at most 53 bits, and no exponent below the least. -/
theorem roundWithAccuracy_bounds {s t : Sign} {m m' : Nat} {e e' : Int} {pos : 0 < m'}
    (rounded : roundWithAccuracy .binary64 s m e .exact = .finite t m' e' pos) :
    m' < 2 ^ 53 ∧ -1074 ≤ e' := by
  unfold roundWithAccuracy at rounded
  generalize shiftToTargetExponent .binary64 m e .exact = first at rounded
  obtain ⟨em, e₁⟩ := first
  have fits := shiftToTargetExponent_lt em.roundedMantissa e₁
  have least := shiftToTargetExponent_snd em.roundedMantissa e₁
  dsimp only at rounded
  split at rounded
  · cases rounded
  · cases rounded
    exact ⟨fits, by rw [least]; omega⟩

/-- A positive magnitude is rounded to a positive number. -/
theorem round_pos {N : Nat} (posN : 0 < N) :
    ∃ m e pos, UnpackedFloat.round .binary64 .positive N 0 = .finite .positive m e pos := by
  rcases Nat.lt_or_ge N (2 ^ 52) with small | large
  · -- a small magnitude is its own rounding, once it is shifted to 53 bits
    have narrow : N.log2 < 52 := (Nat.log2_lt posN.ne').2 small
    have posM : 0 < N * 2 ^ (52 - N.log2) := by positivity
    have bits := log2_scaled posN (52 - N.log2)
    rw [show N.log2 + (52 - N.log2) = 52 by omega, Nat.log2_eq_iff posM.ne'] at bits
    have canonical : Canonical (N * 2 ^ (52 - N.log2)) (N.log2 - 52) :=
      ⟨by omega, bits.2, fun _ => bits.1⟩
    refine ⟨_, _, posM, canonical.round_whole posN posM ?_ .positive⟩
    rw [mul_assoc, ← pow_add]
    congr 2
    omega
  · obtain ⟨m, pos, rounded⟩ := round_of_large .positive large
    exact ⟨m, _, pos, rounded⟩

theorem ofInt_pos {n : Int} (positive : 0 < n) : 0.0 < ofInt n := by
  obtain ⟨m, e, pos, rounded⟩ := round_pos (N := n.toNat) (by omega)
  have bounds : m < 2 ^ 53 ∧ -1074 ≤ e := by
    unfold UnpackedFloat.round decreaseExponent at rounded
    exact roundWithAccuracy_bounds rounded
  have above : compare n 0 = .gt := compare_gt_iff_gt.2 positive
  have unpacked : UnpackedFloat.ofInt .binary64 n = .finite .positive m e pos := by
    unfold UnpackedFloat.ofInt UnpackedFloat.normalize
    rw [above]
    exact rounded
  change 0.0 < Float.ofModel (.pack (UnpackedFloat.ofInt .binary64 n))
  rw [unpacked]
  exact pack_pos pos bounds.1 bounds.2

end Binary

end TickCircuit

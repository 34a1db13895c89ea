import TickCircuit.Proofs.Number.Nearest

/-!
# Operations on Finite `Float`s

A finite `Float` is a zero or a canonical form, and either stands for a whole number of units (`IsUnits`).
Whole numbers, sums, differences, products and quotients come out as what rounding makes of the exact
result, in units (`roundsTo_ofInt`, `roundsTo_add`, `roundsTo_sub`, `roundsTo_mul`, `roundsTo_div`). Each
operation tells zeros apart by their signs, but all of them stand for no units.
-/

namespace TickCircuit

/-! ## §1 Finite `Float`s -/

theorem Exact.units_le {a b : ℤ} : units a ≤ units b ↔ a ≤ b :=
  WithBot.coe_le_coe.trans WithTop.coe_le_coe

theorem Exact.units_lt {a b : ℤ} : units a < units b ↔ a < b :=
  WithBot.coe_lt_coe.trans WithTop.coe_lt_coe

namespace Binary

open Float.Model Float.Model.UnpackedFloat

variable {x y : Float} {f g : UnpackedFloat} {a b : ℤ}

theorem packedValue_eq_units_iff {r : ℤ} : packedValue r = .units a ↔ r = a ∧ a.natAbs < ceiling := by
  unfold packedValue
  split
  · next inRange =>
    refine ⟨fun same => ?_, fun h => congrArg _ h.1⟩
    cases Exact.units_injective same
    exact ⟨rfl, inRange⟩
  · next beyond =>
    refine iff_of_false (fun same => ?_) fun h => beyond (h.1 ▸ h.2)
    split at same
    · exact Exact.units_ne_bot a same.symm
    · exact Exact.units_ne_top a same.symm

/-- Packing is monotone, the infinities included. -/
theorem packedValue_mono {r r' : ℤ} (le : r ≤ r') : packedValue r ≤ packedValue r' := by
  unfold packedValue
  split_ifs <;> first | exact Exact.units_le.2 le | exact bot_le | exact le_top | omega

theorem apply_neg (s : Sign) (n : ℤ) : (-s).apply n = -s.apply n := by
  cases s with
  | positive => rfl
  | negative => exact (neg_neg n).symm

/-- The forms of a finite `Float`, each with the units that it stands for. -/
inductive IsUnits : UnpackedFloat → ℤ → Prop where
  | zero (s : Sign) : IsUnits (.zero s) 0
  | finite (s : Sign) {m : ℕ} {e : ℤ} (pos : 0 < m) (canonical : Canonical m e) :
      IsUnits (.finite s m e pos) (s.apply m * 2 ^ (e + 1074).toNat)

namespace IsUnits

theorem onGrid (units : IsUnits f a) : OnGrid a := by
  cases units with
  | zero s => exact onGrid_zero
  | @finite s m e pos canonical =>
    exact ⟨m, (e + 1074).toNat, canonical.fits, by rw [natAbs_scaled, natAbs_apply]⟩

theorem exactValue?_pack (units : IsUnits f a) : exactValue? (.ofModel (.pack f)) = some (packedValue a) := by
  cases units with
  | zero s =>
    rw [packedValue_zero]
    cases s <;> rfl
  | finite s pos canonical => exact Binary.exactValue?_pack canonical s pos

/-- What is in such a form needs no rounding. -/
theorem roundsTo (units : IsUnits f a) : RoundsTo a (.ofModel (.pack f)) :=
  ⟨a, .self units.onGrid, units.exactValue?_pack⟩

theorem neg (units : IsUnits f a) : IsUnits f.neg (-a) := by
  cases units with
  | zero s => exact .zero (-s)
  | finite s pos canonical =>
    rw [← neg_mul, ← apply_neg]
    exact .finite (-s) pos canonical

end IsUnits

theorem isUnits_unpack (value : exactValue? x = some (.units a)) : IsUnits x.toModel.unpack a := by
  unfold exactValue? at value
  cases form : x.toModel.unpack with
  | notANumber =>
    rw [form] at value
    cases value
  | infinity s =>
    rw [form] at value
    cases s
    · exact absurd (Option.some.inj value).symm (Exact.units_ne_bot a)
    · exact absurd (Option.some.inj value).symm (Exact.units_ne_top a)
  | zero s =>
    rw [form] at value
    cases Exact.units_injective (Option.some.inj value)
    exact .zero s
  | finite s m e pos =>
    rw [form] at value
    cases Exact.units_injective (Option.some.inj value)
    exact .finite s pos (canonical_of_unpack form)

/-- Finite `Float`s are on the grid. -/
theorem onGrid_of_exactValue? (value : exactValue? x = some (.units a)) :
    OnGrid a ∧ a.natAbs < ceiling := by
  have units := isUnits_unpack value
  have repacked := units.exactValue?_pack
  rw [ofModel_pack_unpack, value] at repacked
  exact ⟨units.onGrid, (packedValue_eq_units_iff.1 (Option.some.inj repacked).symm).2⟩

namespace RoundsTo

variable {u : ℚ}

/-- What is on the grid and within the range comes out as it is. -/
theorem exactValue?_eq (rounds : RoundsTo b x) (onGrid : OnGrid b) (inRange : b.natAbs < ceiling) :
    exactValue? x = some (.units b) := by
  obtain ⟨r, nearest, value⟩ := rounds
  rw [value, nearest.eq onGrid, packedValue_of_lt inRange]

/-- What is no further from zero than a number on the grid is rounded to a finite number that is not either. -/
theorem exists_units {n : ℕ} (rounds : RoundsTo u x) (onGrid : OnGrid n) (inRange : n < ceiling)
    (within : |u| ≤ n) : ∃ r, exactValue? x = some (.units r) ∧ r.natAbs ≤ n := by
  obtain ⟨r, nearest, value⟩ := rounds
  obtain ⟨low, high⟩ := abs_le.1 within
  have above := nearest.ge onGrid.neg (by push_cast; exact low)
  have below := nearest.le onGrid (by push_cast; exact high)
  refine ⟨r, ?_, by omega⟩
  rw [value, packedValue_of_lt (by omega)]

end RoundsTo

/-! ## §2 Whole Numbers -/

theorem roundsTo_round (s : Sign) {m : ℕ} (pos : 0 < m) (e : ℤ) :
    RoundsTo (s.apply 1 * (m * 2 ^ (e + 1074))) (.ofModel (.pack (round .binary64 s m e))) := by
  unfold UnpackedFloat.round decreaseExponent
  dsimp only
  rw [targetExponent_eq, Nat.shiftLeft_eq]
  generalize shift : (e - max ((m.log2 : ℤ) + e - 52) (-1074)).toNat = k
  have low : e - k ≤ shiftedExponent (m * 2 ^ k) (e - k) := by
    unfold shiftedExponent
    rw [log2_scaled pos]
    omega
  have rounds := roundsTo_roundWithAccuracy s low (a := .exact) (t := (m * 2 ^ k : ℕ)) rfl
  have same : ((m * 2 ^ k : ℕ) : ℚ) * 2 ^ (e - k + 1074) = m * 2 ^ (e + 1074) := by
    push_cast
    rw [mul_assoc, ← zpow_natCast, ← zpow_add₀ two_ne_zero]
    congr 2
    omega
  rwa [same] at rounds

theorem roundsTo_normalize (n : ℤ) (e : ℤ) (s : Sign) :
    RoundsTo (n * 2 ^ (e + 1074)) (.ofModel (.pack (UnpackedFloat.normalize .binary64 n e s))) := by
  unfold UnpackedFloat.normalize
  rcases lt_trichotomy n 0 with negative | rfl | positive
  · rw [Int.compare_eq_lt.2 negative]
    have rounds := roundsTo_round .negative (m := (-n).toNat) (by omega) e
    have magnitude : (((-n).toNat : ℕ) : ℚ) = -n := by
      exact_mod_cast Int.toNat_of_nonneg (by omega)
    rw [magnitude] at rounds
    simpa [Sign.apply] using rounds
  · rw [Int.compare_eq_eq.2 rfl, Int.cast_zero, zero_mul]
    exact_mod_cast (IsUnits.zero s).roundsTo
  · rw [Int.compare_eq_gt.2 positive]
    have rounds := roundsTo_round .positive (m := n.toNat) (by omega) e
    have magnitude : ((n.toNat : ℕ) : ℚ) = n := by
      exact_mod_cast Int.toNat_of_nonneg (by omega)
    rw [magnitude] at rounds
    simpa [Sign.apply] using rounds

/-- The nearest `Float` to a whole number. -/
theorem roundsTo_ofInt (n : ℤ) : RoundsTo (n * 2 ^ 1074) (ofInt n) := by
  have rounds := roundsTo_normalize n 0 .positive
  rw [zero_add] at rounds
  exact rounds

/-! ## §3 Sums and Differences -/

/-- A term of a sum, brought to a lower exponent. -/
theorem decreased_scaled (s : Sign) (m : ℕ) {e low : ℤ} (below : low ≤ e) :
    ((s.apply (m <<< (e - low).toNat : ℕ) : ℤ) : ℚ) * 2 ^ (low + 1074) =
      (s.apply m : ℤ) * 2 ^ (e + 1074) := by
  have shift : (2 : ℚ) ^ (e + 1074) = 2 ^ (e - low).toNat * 2 ^ (low + 1074) := by
    rw [← zpow_natCast, ← zpow_add₀ two_ne_zero]
    congr 1
    omega
  rw [shift, Nat.shiftLeft_eq, ← mul_assoc]
  cases s <;> simp only [Sign.apply] <;> push_cast <;> ring

theorem scaled_zpow {s : Sign} {m : ℕ} {e : ℤ} (canonical : Canonical m e) :
    ((s.apply m * 2 ^ (e + 1074).toNat : ℤ) : ℚ) = (s.apply m : ℤ) * 2 ^ (e + 1074) := by
  have least := canonical.least
  push_cast
  rw [← zpow_natCast, Int.toNat_of_nonneg (by omega)]

theorem IsUnits.add (first : IsUnits f a) (second : IsUnits g b) :
    RoundsTo (a + b) (.ofModel (.pack (UnpackedFloat.add .binary64 f g))) := by
  cases first with
  | zero s =>
    rw [Int.cast_zero, zero_add]
    cases second with
    | zero s' => cases s <;> cases s' <;> exact (IsUnits.zero _).roundsTo
    | finite s' pos' canonical' => exact (IsUnits.finite s' pos' canonical').roundsTo
  | @finite s m e pos canonical =>
    cases second with
    | zero s' =>
      rw [Int.cast_zero, add_zero]
      exact (IsUnits.finite s pos canonical).roundsTo
    | @finite s' m' e' pos' canonical' =>
      rw [scaled_zpow canonical, scaled_zpow canonical']
      have rounds := roundsTo_normalize (s.apply (m <<< (e - min e e').toNat : ℕ) +
        s'.apply (m' <<< (e' - min e e').toNat : ℕ)) (min e e') .positive
      rw [Int.cast_add, add_mul, decreased_scaled s m (min_le_left e e'),
        decreased_scaled s' m' (min_le_right e e')] at rounds
      exact rounds

/-- A difference is the sum with the opposite. -/
theorem unpacked_sub_eq (f g : UnpackedFloat) :
    UnpackedFloat.sub .binary64 f g = UnpackedFloat.add .binary64 f g.neg := by
  cases f with
  | finite s m e pos =>
    cases g with
    | finite s' m' e' pos' =>
      simp only [UnpackedFloat.sub, UnpackedFloat.add, UnpackedFloat.neg, apply_neg, sub_eq_add_neg]
    | _ => rfl
  | _ => cases g <;> rfl

theorem roundsTo_add (valueX : exactValue? x = some (.units a)) (valueY : exactValue? y = some (.units b)) :
    RoundsTo (a + b) (x + y) :=
  (isUnits_unpack valueX).add (isUnits_unpack valueY)

theorem roundsTo_sub (valueX : exactValue? x = some (.units a)) (valueY : exactValue? y = some (.units b)) :
    RoundsTo (a - b) (x - y) := by
  have rounds := (isUnits_unpack valueX).add (isUnits_unpack valueY).neg
  rw [← unpacked_sub_eq, Int.cast_neg, ← sub_eq_add_neg] at rounds
  exact rounds

/-! ## §4 Products -/

theorem cast_apply (s : Sign) (m : ℕ) : ((s.apply m : ℤ) : ℚ) = s.apply 1 * m := by
  cases s <;> simp [Sign.apply]

theorem apply_mul (s s' : Sign) : (s * s').apply 1 = s.apply 1 * s'.apply 1 := by
  cases s <;> cases s' <;> rfl

theorem apply_div (s s' : Sign) : (s / s').apply 1 = s.apply 1 * s'.apply 1 := by
  cases s <;> cases s' <;> rfl

section Canonical

variable {m m' : ℕ} {e e' : ℤ}

/-- Unless both factors are as low as can be, their product has bits enough. -/
theorem product_le_shiftedExponent (canonical : Canonical m e) (canonical' : Canonical m' e') (pos : 0 < m)
    (pos' : 0 < m') : e + e' ≤ shiftedExponent (m * m') (e + e') := by
  unfold shiftedExponent
  rcases Nat.lt_or_ge (m * m') (2 ^ 52) with small | large
  · -- neither factor has a full mantissa, so both have the least exponent
    have short : m < 2 ^ 52 := (Nat.le_mul_of_pos_right m pos').trans_lt small
    have short' : m' < 2 ^ 52 := (Nat.le_mul_of_pos_left m' pos).trans_lt small
    have least := canonical.least
    have least' := canonical'.least
    have atLeast : e = -1074 := by
      by_contra above
      exact absurd (canonical.full (by omega)) (by omega)
    have atLeast' : e' = -1074 := by
      by_contra above
      exact absurd (canonical'.full (by omega)) (by omega)
    omega
  · have wide : 52 ≤ (m * m').log2 := (Nat.le_log2 (by positivity)).2 large
    omega

/-- The units of a product. -/
theorem product_scaled (s s' : Sign) (canonical : Canonical m e) (canonical' : Canonical m' e') :
    ((s * s').apply 1 : ℤ) * (((m * m' : ℕ) : ℚ) * 2 ^ (e + e' + 1074)) =
      (s.apply m * 2 ^ (e + 1074).toNat : ℤ) * (s'.apply m' * 2 ^ (e' + 1074).toNat : ℤ) / 2 ^ 1074 := by
  have places : (2 : ℚ) ^ (e + e' + 1074) * 2 ^ 1074 = 2 ^ (e + 1074) * 2 ^ (e' + 1074) := by
    rw [← zpow_natCast 2 1074, ← zpow_add₀ two_ne_zero, ← zpow_add₀ two_ne_zero]
    congr 1
    omega
  rw [scaled_zpow canonical, scaled_zpow canonical', eq_div_iff (by positivity), apply_mul, cast_apply s,
    cast_apply s', Int.cast_mul, Nat.cast_mul]
  generalize (2 : ℚ) ^ 1074 = unit at places ⊢
  linear_combination ((s.apply 1 : ℤ) : ℚ) * (s'.apply 1 : ℤ) * m * m' * places

end Canonical

theorem IsUnits.mul (first : IsUnits f a) (second : IsUnits g b) :
    RoundsTo (a * b / 2 ^ 1074) (.ofModel (.pack (UnpackedFloat.mul .binary64 f g))) := by
  have zeros (s : Sign) : RoundsTo 0 (.ofModel (.pack (.zero s))) := by
    exact_mod_cast (IsUnits.zero s).roundsTo
  cases first with
  | zero s =>
    rw [Int.cast_zero, zero_mul, zero_div]
    cases second with
    | zero s' => exact zeros (s * s')
    | finite s' pos' canonical' => exact zeros (s * s')
  | @finite s m e pos canonical =>
    cases second with
    | zero s' =>
      rw [Int.cast_zero, mul_zero, zero_div]
      exact zeros (s * s')
    | @finite s' m' e' pos' canonical' =>
      have low := product_le_shiftedExponent canonical canonical' pos pos'
      have rounds := roundsTo_roundWithAccuracy (s * s') low (a := .exact) (t := (m * m' : ℕ)) rfl
      rw [product_scaled s s' canonical canonical'] at rounds
      exact rounds

theorem roundsTo_mul (valueX : exactValue? x = some (.units a)) (valueY : exactValue? y = some (.units b)) :
    RoundsTo (a * b / 2 ^ 1074) (x * y) :=
  (isUnits_unpack valueX).mul (isUnits_unpack valueY)

/-! ## §5 Quotients -/

/-- What a quotient leaves tells on which side of a half it is. -/
theorem holds_quotient (n : ℕ) {d : ℕ} (pos : 0 < d) :
    Holds (.ofMantissaAndAccuracy (n / d) (accuracyOfFraction (n % d) d)) (n / d : ℚ) := by
  have positive : (0 : ℚ) < d := by exact_mod_cast pos
  have parts : (n : ℚ) = d * ((n / d : ℕ) : ℚ) + ((n % d : ℕ) : ℚ) := by
    exact_mod_cast (Nat.div_add_mod n d).symm
  have rest : ((n % d : ℕ) : ℚ) < d := by exact_mod_cast Nat.mod_lt n pos
  have amount : (n : ℚ) / d = ((n / d : ℕ) : ℚ) + ((n % d : ℕ) : ℚ) / d := by
    rw [parts]
    field_simp
  -- the quotient is split off; only the rest counts, as a fraction of the divisor
  rw [amount]
  unfold accuracyOfFraction
  split
  · next zero =>
    rw [zero, Nat.cast_zero, zero_div, add_zero]
    rfl
  · next nonzero =>
    have above : (0 : ℚ) < ((n % d : ℕ) : ℚ) / d := by
      have : 0 < n % d := Nat.pos_of_ne_zero nonzero
      positivity
    cases order : compare (2 * (n % d)) d with
    | lt =>
      have below : ((n % d : ℕ) : ℚ) / d < 1 / 2 := by
        rw [div_lt_div_iff₀ positive two_pos]
        have := Nat.compare_eq_lt.1 order
        rw [one_mul]
        exact_mod_cast (mul_comm _ _).trans_lt this
      exact ⟨lt_add_of_pos_right _ above, by simpa [ExtendedMantissa.ofMantissaAndAccuracy] using below⟩
    | eq =>
      have equal : ((n % d : ℕ) : ℚ) / d = 1 / 2 := by
        rw [div_eq_div_iff positive.ne' two_ne_zero]
        have := Nat.compare_eq_eq.1 order
        rw [one_mul]
        exact_mod_cast (mul_comm _ _).trans this
      rw [equal]
      rfl
    | gt =>
      have beyond : 1 / 2 < ((n % d : ℕ) : ℚ) / d := by
        rw [div_lt_div_iff₀ two_pos positive]
        have := Nat.compare_eq_gt.1 order
        rw [one_mul]
        exact_mod_cast this.trans_eq (mul_comm _ _)
      have short : ((n % d : ℕ) : ℚ) / d < 1 := (div_lt_one positive).2 rest
      exact ⟨by simpa [ExtendedMantissa.ofMantissaAndAccuracy] using beyond,
        by simpa [ExtendedMantissa.ofMantissaAndAccuracy] using short⟩

section Canonical

variable {m m' : ℕ} {e e' : ℤ}

/-- The exponent to which the dividend is brought, so that the quotient has one bit more than is needed. -/
def dividedExponent (m : ℕ) (e : ℤ) (m' : ℕ) (e' : ℤ) : ℤ :=
  min (e - e') (max ((m.log2 : ℤ) + e - (m'.log2 + e') - 53) (-1074))

theorem quotient_le_shiftedExponent (pos : 0 < m) (pos' : 0 < m') :
    dividedExponent m e m' e' ≤ shiftedExponent
      (m * 2 ^ (e - e' - dividedExponent m e m' e').toNat / m') (dividedExponent m e m' e') := by
  generalize lowest : dividedExponent m e m' e' = f
  generalize shift : (e - e' - f).toNat = k
  unfold dividedExponent at lowest
  unfold shiftedExponent
  rcases le_or_gt f (-1074) with bottom | above
  · omega
  · have bits : m'.log2 + 1 + 52 ≤ m.log2 + k := by omega
    have room : 2 ^ 52 * m' ≤ m * 2 ^ k := by
      calc 2 ^ 52 * m' ≤ 2 ^ 52 * 2 ^ (m'.log2 + 1) := Nat.mul_le_mul_left _ Nat.lt_log2_self.le
        _ = 2 ^ (m'.log2 + 1 + 52) := by rw [← pow_add, add_comm]
        _ ≤ 2 ^ (m.log2 + k) := Nat.pow_le_pow_right two_pos bits
        _ = 2 ^ m.log2 * 2 ^ k := pow_add _ _ _
        _ ≤ m * 2 ^ k := Nat.mul_le_mul_right _ (Nat.log2_self_le pos.ne')
    have large : 2 ^ 52 ≤ m * 2 ^ k / m' := (Nat.le_div_iff_mul_le pos').2 room
    have wide : 52 ≤ (m * 2 ^ k / m').log2 := (Nat.le_log2 (by omega)).2 large
    omega

/-- The units of a quotient. -/
theorem quotient_scaled (s s' : Sign) (canonical : Canonical m e) (canonical' : Canonical m' e')
    (pos' : 0 < m') {f : ℤ} (low : f ≤ e - e') :
    ((s / s').apply 1 : ℤ) * (((m * 2 ^ (e - e' - f).toNat : ℕ) : ℚ) / m' * 2 ^ (f + 1074)) =
      (s.apply m * 2 ^ (e + 1074).toNat : ℤ) * 2 ^ 1074 / (s'.apply m' * 2 ^ (e' + 1074).toNat : ℤ) := by
  generalize shift : (e - e' - f).toNat = k
  have positive : (m' : ℚ) ≠ 0 := by exact_mod_cast pos'.ne'
  have square : ((s'.apply 1 : ℤ) : ℚ) * (s'.apply 1 : ℤ) = 1 := by cases s' <;> norm_num [Sign.apply]
  have nonzero : ((s'.apply 1 : ℤ) : ℚ) * m' * 2 ^ (e' + 1074) ≠ 0 := by
    have : ((s'.apply 1 : ℤ) : ℚ) ≠ 0 := left_ne_zero_of_mul_eq_one square
    positivity
  have places : (2 : ℚ) ^ k * 2 ^ (f + 1074) * 2 ^ (e' + 1074) = 2 ^ (e + 1074) * 2 ^ 1074 := by
    rw [← zpow_natCast 2 1074, ← zpow_natCast 2 k, ← zpow_add₀ two_ne_zero, ← zpow_add₀ two_ne_zero,
      ← zpow_add₀ two_ne_zero]
    congr 1
    omega
  rw [scaled_zpow canonical, scaled_zpow canonical', apply_div, cast_apply s, cast_apply s',
    eq_div_iff nonzero, Int.cast_mul, Nat.cast_mul, Nat.cast_pow, Nat.cast_ofNat]
  have cleared : (m : ℚ) * 2 ^ k / m' * m' = m * 2 ^ k := div_mul_cancel₀ _ positive
  generalize (m : ℚ) * 2 ^ k / m' = q at cleared ⊢
  generalize (2 : ℚ) ^ 1074 = unit at places ⊢
  generalize ((s.apply 1 : ℤ) : ℚ) = one
  generalize ((s'.apply 1 : ℤ) : ℚ) = one' at square ⊢
  -- the three identities, each with what it is multiplied by
  linear_combination one * one' ^ 2 * 2 ^ (f + 1074) * 2 ^ (e' + 1074) * cleared +
    one * m * 2 ^ k * 2 ^ (f + 1074) * 2 ^ (e' + 1074) * square + one * m * places

end Canonical

theorem IsUnits.div (first : IsUnits f a) (second : IsUnits g b) (nonzero : b ≠ 0) :
    RoundsTo (a * 2 ^ 1074 / b) (.ofModel (.pack (UnpackedFloat.div .binary64 f g))) := by
  cases second with
  | zero s' => exact absurd rfl nonzero
  | @finite s' m' e' pos' canonical' =>
    cases first with
    | zero s =>
      rw [Int.cast_zero, zero_mul, zero_div]
      exact_mod_cast (IsUnits.zero (s / s')).roundsTo
    | @finite s m e pos canonical =>
      have target : Format.binary64.targetExponent (totalExponent m e - totalExponent m' e') =
          max ((m.log2 : ℤ) + e - (m'.log2 + e') - 53) (-1074) := by
        have bits : ((Format.binary64.mantissaBits : Nat) : Int) = 53 := rfl
        have least : Format.binary64.minExponent = -1074 := rfl
        rw [Format.targetExponent, totalExponent, totalExponent, bits, least]
        omega
      -- the dividend is shifted so far that the quotient has all bits that count, and more
      have low : dividedExponent m e m' e' ≤ e - e' := min_le_left _ _
      have rounds := roundsTo_roundWithAccuracy (s / s') (quotient_le_shiftedExponent pos pos')
        (holds_quotient (m * 2 ^ (e - e' - dividedExponent m e m' e').toNat) pos')
      rw [quotient_scaled s s' canonical canonical' pos' low] at rounds
      unfold UnpackedFloat.div divCore
      dsimp only
      rw [target, Nat.shiftLeft_eq]
      exact rounds

theorem roundsTo_div (valueX : exactValue? x = some (.units a)) (valueY : exactValue? y = some (.units b))
    (nonzero : b ≠ 0) : RoundsTo (a * 2 ^ 1074 / b) (x / y) :=
  (isUnits_unpack valueX).div (isUnits_unpack valueY) nonzero

end Binary

end TickCircuit

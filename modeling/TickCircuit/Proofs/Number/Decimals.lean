import TickCircuit.Proofs.Number.WholeParts

/-!
# Rounding to Twelve Decimal Places

A `Float` is rounded to decimal places in two steps: its exact value to the nearest decimal (`decimal`), and
this to the nearest `Float` (`ofDecimal`). Both steps are monotone (`decimal_mono`, `ofDecimal_mono`).

They also leave alone what has been rounded before (`exactValue?_ofDecimal_decimal`). Below `2 ^ 13` there
are so many `Float`s that the nearest one is less than half a decimal away, so the nearest decimal is again
the one that it comes from. From there on there are so few of them that the nearest decimal is less than half
a `Float` away, so it is rounded back. So rounding does not lead from a rounded `Float`, or from anything
above it, to something below it (`IsDecimal.le_roundFloat`).
-/

namespace TickCircuit

/-! ## §1 Quotients Rounded to Whole Numbers -/

namespace Number

variable {num num' den : ℕ}

/-- A rounded quotient is at most a half away. -/
theorem roundQuotient_within (num : ℕ) (pos : 0 < den) :
    2 * (roundQuotient num den * den) ≤ 2 * num + den ∧
      2 * num ≤ 2 * (roundQuotient num den * den) + den := by
  have split := Nat.div_add_mod' num den
  have rest : num % den < den := Nat.mod_lt num pos
  unfold roundQuotient
  dsimp only
  split
  · next up =>
    have half : den ≤ 2 * (num % den) := by
      simp only [Bool.or_eq_true, Bool.and_eq_true, decide_eq_true_eq, beq_iff_eq] at up
      rcases up with more | ⟨same, -⟩
      · exact more.le
      · exact same.ge
    rw [Nat.add_mul, Nat.one_mul]
    omega
  · next down =>
    have half : 2 * (num % den) ≤ den := by
      by_contra more
      simp [not_le.1 more] at down
    omega

/-- What is less than a half away is the rounded quotient. -/
theorem roundQuotient_eq {q : ℕ} (pos : 0 < den) (low : 2 * (q * den) < 2 * num + den)
    (high : 2 * num < 2 * (q * den) + den) : roundQuotient num den = q := by
  obtain ⟨above, below⟩ := roundQuotient_within num pos
  have next (a b : ℕ) (less : 2 * (a * den) < 2 * (b * den) + 2 * den) : a ≤ b := by
    refine Nat.le_of_lt_succ (Nat.lt_of_mul_lt_mul_right (a := den) ?_)
    rw [Nat.succ_mul]
    omega
  exact le_antisymm (next _ _ (by omega)) (next _ _ (by omega))

theorem roundQuotient_mul_self (k : ℕ) (pos : 0 < den) : roundQuotient (k * den) den = k :=
  roundQuotient_eq pos (by omega) (by omega)

theorem roundQuotient_mono (pos : 0 < den) (le : num ≤ num') :
    roundQuotient num den ≤ roundQuotient num' den := by
  by_contra less
  obtain ⟨above, -⟩ := roundQuotient_within num pos
  obtain ⟨-, below⟩ := roundQuotient_within num' pos
  have apart := Nat.mul_le_mul_right den (not_le.1 less)
  rw [Nat.succ_mul] at apart
  -- the two are one apart only if the numerators are the same
  have same : num = num' := by omega
  exact less (same ▸ le_rfl)

/-- A common factor can be cancelled. -/
theorem roundQuotient_mul_right {c : ℕ} (pos : 0 < c) :
    roundQuotient (num * c) (den * c) = roundQuotient num den := by
  have twice : 2 * (num % den * c) = 2 * (num % den) * c := (Nat.mul_assoc 2 _ c).symm
  have more : 2 * (num % den) * c > den * c ↔ 2 * (num % den) > den := Nat.mul_lt_mul_right pos
  have same : (2 * (num % den) * c == den * c) = (2 * (num % den) == den) := by
    rw [Bool.eq_iff_iff, beq_iff_eq, beq_iff_eq, Nat.mul_left_inj pos.ne']
  unfold roundQuotient
  simp only [Nat.mul_div_mul_right _ _ pos, Nat.mul_mod_mul_right, twice, more, same]

end Number

/-! ## §2 Decimals -/

namespace Binary

open Float.Model Float.Model.UnpackedFloat

/-- The `Float` nearest to `k` times `10 ^ -12`. -/
def ofDecimal (k : ℕ) : Float := ofRatio false k (10 ^ 12)

/-- The multiple of `10 ^ -12` nearest to a number of units. -/
def decimal (n : ℕ) : ℕ := Number.roundQuotient (n * 10 ^ 12) (2 ^ 1074)

theorem roundsTo_ofDecimal (k : ℕ) : RoundsTo (k / 10 ^ 12 * 2 ^ 1074) (ofDecimal k) := by
  have rounds : RoundsTo _ (ofDecimal k) := roundsTo_ofRatio false k (by norm_num)
  rw [factor, if_neg Bool.false_ne_true, Int.cast_one, one_mul] at rounds
  exact_mod_cast rounds

/-- What is nearest to a greater decimal is not less. -/
theorem ofDecimal_mono {k k' : ℕ} (le : k ≤ k') : ofDecimal k ≤ ofDecimal k' := by
  obtain ⟨r, nearest, value⟩ := roundsTo_ofDecimal k
  obtain ⟨r', nearest', value'⟩ := roundsTo_ofDecimal k'
  rcases le.lt_or_eq with less | rfl
  · refine le_iff.2 ⟨_, _, value, value', packedValue_mono (nearest.mono nearest' ?_)⟩
    have cast : (k : ℚ) < k' := by exact_mod_cast less
    gcongr
  · exact le_iff.2 ⟨_, _, value, value, le_rfl⟩

/-- A decimal that is on the grid is not rounded. -/
theorem exactValue?_ofDecimal {k n : ℕ} (same : k * 2 ^ 1074 = n * 10 ^ 12) (onGrid : OnGrid n)
    (inRange : n < ceiling) : exactValue? (ofDecimal k) = some (.units n) := by
  have rounds := roundsTo_ofDecimal k
  have cast : (k : ℚ) * 2 ^ 1074 = n * 10 ^ 12 := by
    simpa only [Nat.cast_mul, Nat.cast_pow, Nat.cast_ofNat] using congrArg (Nat.cast (R := ℚ)) same
  have units : (k / 10 ^ 12 * 2 ^ 1074 : ℚ) = (n : ℤ) := by
    rw [div_mul_eq_mul_div, cast, mul_div_cancel_right₀ _ (by norm_num), Int.cast_natCast]
  rw [units] at rounds
  exact rounds.exactValue?_eq onGrid inRange

/-- The nearest decimal is at most half a decimal away. -/
theorem decimal_within (n : ℕ) : 2 * (decimal n * 2 ^ 1074) ≤ 2 * (n * 10 ^ 12) + 2 ^ 1074 ∧
    2 * (n * 10 ^ 12) ≤ 2 * (decimal n * 2 ^ 1074) + 2 ^ 1074 :=
  Number.roundQuotient_within (n * 10 ^ 12) (pow_pos two_pos _)

theorem decimal_mono {n n' : ℕ} (le : n ≤ n') : decimal n ≤ decimal n' :=
  Number.roundQuotient_mono (pow_pos two_pos _) (Nat.mul_le_mul_right _ le)

/-- What is a decimal and on the grid is left alone. -/
theorem exactValue?_ofDecimal_decimal_of_dvd {n : ℕ} (dvd : 2 ^ 1074 ∣ n * 10 ^ 12) (onGrid : OnGrid n)
    (inRange : n < ceiling) : exactValue? (ofDecimal (decimal n)) = some (.units n) := by
  obtain ⟨k, product⟩ := dvd
  rw [mul_comm (2 ^ 1074)] at product
  rw [decimal, product, Number.roundQuotient_mul_self k (pow_pos two_pos _)]
  exact exactValue?_ofDecimal product.symm onGrid inRange

/-! ## §3 Rounded `Float`s -/

variable {x y : Float} {n : ℕ}

/-- A `Float` that is not negative is rounded to the nearest decimal and then to the nearest `Float`. -/
theorem exactValue?_roundFloat (value : exactValue? x = some (.units n)) :
    exactValue? (Number.roundFloat x 12) = exactValue? (ofDecimal (decimal n)) := by
  obtain ⟨onGrid, inRange⟩ := onGrid_of_exactValue? value
  have alone (dvd : 2 ^ 1074 ∣ n) : exactValue? x = exactValue? (ofDecimal (decimal n)) := by
    rw [value, exactValue?_ofDecimal_decimal_of_dvd (dvd.mul_right _) onGrid inRange]
  have units := isUnits_unpack value
  unfold Number.roundFloat
  rw [if_neg (by decide)]
  generalize x.toModel.unpack = f at units
  generalize same : (n : ℤ) = a at units
  cases units with
  | zero s => exact alone (Int.natCast_eq_zero.1 same ▸ dvd_zero _)
  | @finite s m e pos canonical =>
    have least := canonical.least
    cases s with
    | negative =>
      have positive : (0 : ℤ) < m * 2 ^ (e + 1074).toNat :=
        mul_pos (by exact_mod_cast pos) (pow_pos two_pos _)
      rw [Sign.apply, neg_mul] at same
      omega
    | positive =>
      have size : n = m * 2 ^ (e + 1074).toNat := by
        rw [Sign.apply] at same
        exact_mod_cast same
      dsimp only
      -- without binary places the number is whole; with some, a power of two cancels in the quotient
      split
      · next whole =>
        refine alone (size ▸ Dvd.dvd.mul_left (pow_dvd_pow 2 ?_) m)
        omega
      · next fraction =>
        have shift : 1074 = (-e).toNat + (e + 1074).toNat := by omega
        have scaled : decimal n = Number.roundQuotient (m * 10 ^ 12) (2 ^ (-e).toNat) := by
          rw [decimal, size, mul_right_comm]
          conv_lhs => rw [shift, pow_add]
          exact Number.roundQuotient_mul_right (pow_pos two_pos _)
        rw [scaled]
        rfl

/-! ## §4 Rounding Again -/

/-- Below `2 ^ 13` there are `Float`s half a decimal away, or less. -/
theorem within_ofDecimal {k : ℕ} {r : ℤ} (small : k < 2 ^ 13 * 10 ^ 12)
    (nearest : IsNearest (k / 10 ^ 12 * 2 ^ 1074) r) : |(r : ℚ) - k / 10 ^ 12 * 2 ^ 1074| ≤ 2 ^ 1033 := by
  -- the nearest multiple of `2 ^ -40`
  obtain ⟨b, fits, low, high⟩ : ∃ b : ℕ, b ≤ 2 ^ 53 ∧ 2 * (b * 10 ^ 12) ≤ k * 2 ^ 41 + 10 ^ 12 ∧
      k * 2 ^ 41 ≤ 2 * (b * 10 ^ 12) + 10 ^ 12 := by
    refine ⟨(k * 2 ^ 41 + 10 ^ 12) / (2 * 10 ^ 12), ?_, ?_, ?_⟩ <;> omega
  have low' : (2 * (b * 10 ^ 12) : ℚ) ≤ k * 2 ^ 41 + 10 ^ 12 := by exact_mod_cast low
  have high' : (k * 2 ^ 41 : ℚ) ≤ 2 * (b * 10 ^ 12) + 10 ^ 12 := by exact_mod_cast high
  refine (nearest.closest _ (onGrid_of_le fits 1034)).trans ?_
  have steps : (2 : ℚ) ^ 1034 = 2 * 2 ^ 1033 := pow_succ' 2 1033
  have one : (2 : ℚ) ^ 1074 = 2 ^ 41 * 2 ^ 1033 := pow_add 2 41 1033
  have pos : (0 : ℚ) < 2 ^ 1033 := pow_pos two_pos _
  rw [Int.cast_mul, Int.cast_pow, Int.cast_ofNat, Int.cast_natCast, steps, one]
  generalize (2 : ℚ) ^ 1033 = unit at pos
  have distance : (b * (2 * unit) - k / 10 ^ 12 * (2 ^ 41 * unit) : ℚ) =
      unit / 10 ^ 12 * (2 * (b * 10 ^ 12) - k * 2 ^ 41) := by
    field_simp
  rw [distance, abs_mul, abs_of_pos (div_pos pos (by norm_num)), div_mul_eq_mul_div, div_le_iff₀ (by norm_num)]
  refine mul_le_mul_of_nonneg_left (abs_le.2 ⟨?_, ?_⟩) pos.le <;> linarith

theorem decimal_of_small {k n : ℕ} (small : k < 2 ^ 13 * 10 ^ 12)
    (value : exactValue? (ofDecimal k) = some (.units n)) : decimal n = k := by
  obtain ⟨r, nearest, packed⟩ := roundsTo_ofDecimal k
  obtain ⟨rfl, -⟩ := packedValue_eq_units_iff.1 (Option.some.inj (packed.symm.trans value))
  obtain ⟨low, high⟩ := abs_le.1 (within_ofDecimal small nearest)
  have one : (2 : ℚ) ^ 1074 = 2 ^ 41 * (2 ^ 1033 : ℕ) := by rw [Nat.cast_pow, Nat.cast_ofNat, ← pow_add]
  have one' : 2 ^ 1074 = 2 ^ 41 * 2 ^ 1033 := by rw [← pow_add]
  have half : (2 : ℚ) ^ 1033 = (2 ^ 1033 : ℕ) := by rw [Nat.cast_pow, Nat.cast_ofNat]
  have pos : 0 < 2 ^ 1033 := pow_pos two_pos _
  rw [one, half, Int.cast_natCast] at low high
  rw [decimal, one']
  generalize 2 ^ 1033 = unit at *
  have below : k * (2 ^ 41 * unit) ≤ n * 10 ^ 12 + unit * 10 ^ 12 := by
    have cast : (k * (2 ^ 41 * unit) : ℚ) ≤ n * 10 ^ 12 + unit * 10 ^ 12 := by linarith
    exact_mod_cast cast
  have above : n * 10 ^ 12 ≤ k * (2 ^ 41 * unit) + unit * 10 ^ 12 := by
    have cast : (n * 10 ^ 12 : ℚ) ≤ k * (2 ^ 41 * unit) + unit * 10 ^ 12 := by linarith
    exact_mod_cast cast
  -- `10 ^ 12` is less than `2 ^ 40`
  exact Number.roundQuotient_eq (by omega) (by omega) (by omega)

/-- The nearest decimal is less than half of `2 ^ -39` away, and so is the nearest `Float`. -/
theorem within_decimal {n : ℕ} {r : ℤ} (onGrid : OnGrid n)
    (nearest : IsNearest (decimal n / 10 ^ 12 * 2 ^ 1074) r) : |r - (n : ℤ)| < 2 ^ 1035 := by
  obtain ⟨high, low⟩ := decimal_within n
  have closest := nearest.closest n onGrid
  have one : (2 : ℚ) ^ 1074 = 2 ^ 40 * (2 ^ 1034 : ℕ) := by rw [Nat.cast_pow, Nat.cast_ofNat, ← pow_add]
  have one' : 2 ^ 1074 = 2 ^ 40 * 2 ^ 1034 := by rw [← pow_add]
  have step : (2 : ℤ) ^ 1035 = 2 * (2 ^ 1034 : ℕ) := by rw [Nat.cast_pow, Nat.cast_ofNat, ← pow_succ']
  have pos : 0 < 2 ^ 1034 := pow_pos two_pos _
  rw [one, Int.cast_natCast] at closest
  rw [one'] at high low
  rw [step]
  generalize 2 ^ 1034 = half at *
  generalize decimal n = k at *
  have high' : (2 * (k * (2 ^ 40 * half)) : ℚ) ≤ 2 * (n * 10 ^ 12) + 2 ^ 40 * half := by exact_mod_cast high
  have low' : (2 * (n * 10 ^ 12) : ℚ) ≤ 2 * (k * (2 ^ 40 * half)) + 2 ^ 40 * half := by exact_mod_cast low
  have pos' : (0 : ℚ) < half := by exact_mod_cast pos
  -- `2 ^ 39` is less than `10 ^ 12`
  have distance : |(n : ℚ) - k / 10 ^ 12 * (2 ^ 40 * half)| < (half : ℚ) := by
    rw [abs_lt]
    constructor <;> linarith only [high', low', pos']
  have apart : |(r : ℚ) - n| < 2 * (half : ℚ) := by
    have rounded := abs_lt.1 (closest.trans_lt distance)
    rw [abs_lt] at distance ⊢
    constructor <;> linarith only [distance, rounded]
  exact_mod_cast apart

theorem exactValue?_ofDecimal_decimal_of_large {n : ℕ} (large : 2 ^ 52 * 2 ^ 1035 ≤ n) (onGrid : OnGrid n)
    (inRange : n < ceiling) : exactValue? (ofDecimal (decimal n)) = some (.units n) := by
  rcases large.eq_or_lt with rfl | beyond
  · refine exactValue?_ofDecimal_decimal_of_dvd (Dvd.dvd.mul_right ?_ _) onGrid inRange
    rw [← pow_add]
    exact pow_dvd_pow 2 (by norm_num)
  obtain ⟨r, nearest, packed⟩ := roundsTo_ofDecimal (decimal n)
  have apart := within_decimal onGrid nearest
  suffices same : r = n by
    rw [packed, same]
    exact congrArg some (packedValue_of_lt inRange)
  -- both are multiples of the same power of two, and less than this power apart
  have multiple : (2 : ℤ) ^ 1035 ∣ n := onGrid.dvd large
  have gap : (2 : ℤ) ^ 1035 ≤ n - 2 ^ 52 * 2 ^ 1035 :=
    Int.le_of_dvd (sub_pos.2 (by exact_mod_cast beyond)) (dvd_sub multiple (Dvd.intro_left _ rfl))
  have wide : 2 ^ 52 * 2 ^ 1035 ≤ r.natAbs := by
    refine Int.ofNat_le.1 (le_trans ?_ Int.le_natAbs)
    rw [Nat.cast_mul, Nat.cast_pow, Nat.cast_pow, Nat.cast_ofNat]
    have near : (n : ℤ) - 2 ^ 1035 < r := sub_lt_iff_lt_add'.2 (neg_lt_sub_iff_lt_add.1 (abs_lt.1 apart).1)
    exact (le_sub_comm.1 gap).trans near.le
  exact sub_eq_zero.1 (Int.eq_zero_of_abs_lt_dvd (dvd_sub (nearest.onGrid.dvd wide) multiple) apart)

/-- What has been rounded is left alone. -/
theorem exactValue?_ofDecimal_decimal {k : ℕ} (value : exactValue? (ofDecimal k) = some (.units n)) :
    exactValue? (ofDecimal (decimal n)) = some (.units n) := by
  rcases lt_or_ge k (2 ^ 13 * 10 ^ 12) with small | large
  · rw [decimal_of_small small value, value]
  · obtain ⟨onGrid, inRange⟩ := onGrid_of_exactValue? value
    obtain ⟨r, nearest, packed⟩ := roundsTo_ofDecimal k
    obtain ⟨rfl, -⟩ := packedValue_eq_units_iff.1 (Option.some.inj (packed.symm.trans value))
    refine exactValue?_ofDecimal_decimal_of_large ?_ onGrid inRange
    -- `2 ^ 13` is on the grid itself, so rounding does not go below it
    have least : ((2 ^ 52 : ℕ) * 2 ^ 1035 : ℤ) ≤ n := by
      refine nearest.ge (onGrid_of_le (by norm_num) 1035) ?_
      have cast : (2 ^ 13 : ℚ) ≤ k / 10 ^ 12 := by
        rw [le_div_iff₀ (by norm_num)]
        exact_mod_cast large
      have product : (((2 ^ 52 : ℕ) * 2 ^ 1035 : ℤ) : ℚ) = 2 ^ 13 * 2 ^ 1074 := by
        rw [Int.cast_mul, Int.cast_pow, Int.cast_natCast, Nat.cast_pow, Nat.cast_ofNat, Int.cast_ofNat,
          ← pow_add, ← pow_add]
      rw [product]
      exact mul_le_mul_of_nonneg_right cast (pow_nonneg zero_le_two _)
    exact_mod_cast least

/-- A `Float` that has been rounded to twelve decimal places. -/
def IsDecimal (x : Float) : Prop := ∃ k, exactValue? x = exactValue? (ofDecimal k)

theorem isDecimal_zero : IsDecimal 0.0 := ⟨0, rfl⟩

theorem isDecimal_roundFloat (value : exactValue? x = some (.units n)) : IsDecimal (Number.roundFloat x 12) :=
  ⟨decimal n, exactValue?_roundFloat value⟩

/-- **Rounding**: a `Float` that is not less than a rounded one is not rounded to less. -/
theorem IsDecimal.le_roundFloat {m : ℕ} (rounded : IsDecimal x) (valueX : exactValue? x = some (.units m))
    (valueY : exactValue? y = some (.units n)) (le : m ≤ n) : x ≤ Number.roundFloat y 12 := by
  obtain ⟨k, same⟩ := rounded
  have again := exactValue?_ofDecimal_decimal (same.symm.trans valueX)
  obtain ⟨u, v, valueU, valueV, order⟩ := le_iff.1 (ofDecimal_mono (decimal_mono le))
  rw [again] at valueU
  exact le_iff.2 ⟨u, v, valueX.trans valueU, (exactValue?_roundFloat valueY).trans valueV, order⟩

end Binary

end TickCircuit

import TickCircuit.Proofs.Number.WholeParts

/-!
# Floors of Sums with One Half

The sum of a `Float` and one half is rounded, and a floor taken of it may be the floor of something else. It
is not, unless the sum comes to lie on the next whole number: that is so for the greatest `Float` below one
half, and for odd numbers that leave no room for a half, where the tie goes to the even neighbour
(`IsMissed`). For these the floor is too large by one, and for all others it is the floor of the exact sum
(`floor?_add_half`).
-/

namespace TickCircuit.Binary

open Float.Model Float.Model.UnpackedFloat

variable {x : Float} {a r z : ℤ}

/-! ## §1 Ties -/

/-- Half way between two mantissas the even one is taken. -/
theorem Holds.roundedMantissa_of_half {em : ExtendedMantissa} {c : ℕ} (holds : Holds em (c + 1 / 2)) :
    em.roundedMantissa = c + c % 2 := by
  obtain ⟨m, round, sticky⟩ := em
  have whole (n : ℕ) : (c : ℚ) + 1 / 2 ≠ n := by
    intro equal
    have doubled : 2 * c + 1 = 2 * n := by
      have : (2 * c + 1 : ℚ) = 2 * n := by linarith
      exact_mod_cast this
    omega
  have same {n : ℕ} (below : (n : ℚ) < c + 1) (above : (c : ℚ) < n + 1) : n = c := by
    have first : n < c + 1 := by exact_mod_cast below
    have second : c < n + 1 := by exact_mod_cast above
    omega
  -- of the four forms only that of a half holds of `c + 1 / 2`
  cases round <;> cases sticky <;> simp only [Holds] at holds
  · exact absurd holds (whole m)
  · obtain ⟨low, high⟩ := holds
    have equal := same (n := m) (by linarith) (by linarith)
    rw [equal] at high
    exact absurd high (lt_irrefl _)
  · have equal := same (n := m) (by linarith) (by linarith)
    rw [equal]
    rfl
  · obtain ⟨low, high⟩ := holds
    have equal := same (n := m) (by linarith) (by linarith)
    rw [equal] at low
    exact absurd low (lt_irrefl _)

/-- One bit more than there is room for, and it is not zero. -/
theorem exactValue?_round_half (s : Sign) {c : ℕ} (full : 2 ^ 52 ≤ c) (fits : c < 2 ^ 53) (k : ℕ) {e : ℤ}
    (least : -1074 ≤ e + k + 1) :
    exactValue? (.ofModel (.pack (UnpackedFloat.round .binary64 s ((2 * c + 1) * 2 ^ k) e))) =
      some (packedValue (s.apply (c + c % 2 : ℕ) * 2 ^ (e + k + 1 + 1074).toNat)) := by
  have bits : ((2 * c + 1) * 2 ^ k).log2 = 53 + k := by
    rw [log2_scaled (by omega), (Nat.log2_eq_iff (by omega)).2 (show 2 ^ 53 ≤ _ ∧ _ < 2 ^ 54 by omega)]
  have exponent : shiftedExponent ((2 * c + 1) * 2 ^ k) e = e + k + 1 := by
    unfold shiftedExponent
    rw [bits]
    omega
  have rounded : (shifted ((2 * c + 1) * 2 ^ k) e .exact).roundedMantissa = c + c % 2 := by
    refine Holds.roundedMantissa_of_half ?_
    have start : Holds (.ofMantissaAndAccuracy ((2 * c + 1) * 2 ^ k) .exact)
      (((2 * c + 1) * 2 ^ k : ℕ) : ℚ) := rfl
    have half : (((2 * c + 1) * 2 ^ k : ℕ) : ℚ) / 2 ^ (k + 1) = c + 1 / 2 := by
      push_cast
      rw [pow_succ]
      field_simp
    have places : (max ((((2 * c + 1) * 2 ^ k).log2 : ℤ) + e - 52) (-1074) - e).toNat = k + 1 := by
      rw [bits]
      omega
    rw [shifted, places, ← half]
    exact start.shiftRight (k + 1)
  have low : e ≤ shiftedExponent ((2 * c + 1) * 2 ^ k) e := by omega
  have value := exactValue?_roundWithAccuracy s low (a := .exact)
  rw [rounded, exponent] at value
  unfold UnpackedFloat.round decreaseExponent
  dsimp only
  -- there is nothing to shift to the left
  rw [targetExponent_eq, bits, show (e - max (((53 + k : ℕ) : ℤ) + e - 52) (-1074)).toNat = 0 by omega,
    Nat.shiftLeft_zero, Nat.cast_zero, sub_zero]
  exact value

/-- The whole numbers that leave no room for a half behind them, while the next whole number has one. -/
def IsTight (z : ℤ) : Prop := 2 ^ 52 ≤ z ∧ z < 2 ^ 53 ∨ -2 ^ 53 ≤ z ∧ z < -2 ^ 52

theorem exactValue?_normalize_half (tight : IsTight z) (k : ℕ) {e : ℤ} (least : -1074 ≤ e + k + 1) (s : Sign) :
    exactValue? (.ofModel (.pack (UnpackedFloat.normalize .binary64 ((2 * z + 1) * 2 ^ k) e s))) =
      some (packedValue ((z + z % 2) * 2 ^ (e + k + 1 + 1074).toNat)) := by
  have unit : (0 : ℤ) < 2 ^ k := by positivity
  unfold UnpackedFloat.normalize
  -- a negative amount is rounded by its magnitude, which is a half as well
  rcases tight with ⟨low, high⟩ | ⟨low, high⟩
  · have above : 0 < (2 * z + 1) * 2 ^ k := mul_pos (by omega) unit
    lift z to ℕ using by omega
    rw [Int.compare_eq_gt.2 above]
    have value := exactValue?_round_half .positive (c := z) (by omega) (by omega) k least
    have magnitude : ((2 * (z : ℤ) + 1) * 2 ^ k).toNat = (2 * z + 1) * 2 ^ k := by
      rw [← Int.toNat_natCast ((2 * z + 1) * 2 ^ k)]
      push_cast
      rfl
    rw [magnitude]
    exact_mod_cast value
  · have below : (2 * z + 1) * 2 ^ k < 0 := mul_neg_of_neg_of_pos (by omega) unit
    rw [Int.compare_eq_lt.2 below]
    obtain ⟨c, rfl⟩ : ∃ c : ℕ, z = -(c + 1) := ⟨(-z - 1).toNat, by omega⟩
    have value := exactValue?_round_half .negative (c := c) (by omega) (by omega) k least
    have magnitude : (-((2 * (-((c : ℤ) + 1)) + 1) * 2 ^ k)).toNat = (2 * c + 1) * 2 ^ k := by
      rw [← Int.toNat_natCast ((2 * c + 1) * 2 ^ k)]
      congr 1
      push_cast
      ring
    have parity : -((c : ℤ) + 1) + -((c : ℤ) + 1) % 2 = -((c + c % 2 : ℕ) : ℤ) := by omega
    rw [magnitude, parity]
    exact value

theorem exactValue?_half : exactValue? 0.5 = some (.units (2 ^ 1073)) := by
  have half : exactValue? 0.5 = some (.units (2 ^ 52 * 2 ^ 1021)) := by rfl
  rw [half, pow_add 2 52 1021]

/-- Where there is no room for the half, the sum is even. -/
theorem exactValue?_add_half_of_tight (value : exactValue? x = some (.ofInt z)) (tight : IsTight z) :
    exactValue? (x + 0.5) = some (.ofInt (z + z % 2)) := by
  have units := isUnits_unpack value
  have half : (0.5 : Float).toModel.unpack = .finite .positive (2 ^ 52) (-53) (by norm_num) := by rfl
  change exactValue? (.ofModel (.pack (UnpackedFloat.add .binary64 x.toModel.unpack
    (0.5 : Float).toModel.unpack))) = _
  rw [half]
  generalize x.toModel.unpack = f at units
  generalize amount : z * 2 ^ 1074 = a at units
  cases units with
  | zero s =>
    have := (mul_eq_zero.1 amount).resolve_right (pow_ne_zero _ two_ne_zero)
    unfold IsTight at tight
    omega
  | @finite s m e pos canonical =>
    have size := magnitude_of_scaled amount.symm
    have large : 2 ^ 52 * 2 ^ 1074 ≤ m * 2 ^ (e + 1074).toNat := by
      rw [size]
      unfold IsTight at tight
      exact Nat.mul_le_mul_right _ (by omega)
    have whole := exponent_le_of_large canonical.fits large
    -- both terms are brought to the exponent of the half
    have lowest : min e (-53) = -53 := min_eq_right (by omega)
    have term : s.apply ((m <<< (e - -53).toNat : ℕ) : ℤ) = 2 * z * 2 ^ 52 := by
      have scaled := scaled_eq_of_le s m (show -1074 ≤ (-53 : ℤ) by omega) (show -53 ≤ e by omega)
      rw [← amount, show 1074 = 53 + 1021 from rfl, pow_add, ← mul_assoc, ← Nat.shiftLeft_eq] at scaled
      rw [← mul_right_cancel₀ (pow_ne_zero 1021 two_ne_zero) scaled]
      ring
    have sum : UnpackedFloat.add .binary64 (.finite s m e pos) (.finite .positive (2 ^ 52) (-53) (by norm_num)) =
        UnpackedFloat.normalize .binary64 ((2 * z + 1) * 2 ^ 52) (-53) .positive := by
      unfold UnpackedFloat.add decreaseExponent
      dsimp only
      rw [lowest, term, sub_self, Int.toNat_zero, Nat.shiftLeft_zero, Sign.apply, add_mul, one_mul,
        Nat.cast_pow, Nat.cast_ofNat]
    have inRange : ((z + z % 2) * 2 ^ 1074).natAbs < ceiling := by
      rw [natAbs_scaled]
      unfold IsTight at tight
      exact scaled_lt_ceiling_of_le (by omega) (by norm_num)
    rw [sum, exactValue?_normalize_half tight 52 (by norm_num)]
    exact congrArg some (packedValue_of_lt inRange)

/-! ## §2 Sums -/

section Sums

variable {h : ℤ}

/-- A sum with a half is rounded to something between the number itself and the number with twice the
half. -/
theorem IsNearest.within (nearest : IsNearest (a + h : ℤ) r) (onGrid : OnGrid a) (pos : 0 ≤ h) :
    a ≤ r ∧ r ≤ a + 2 * h := by
  refine ⟨nearest.ge onGrid (by exact_mod_cast le_add_of_nonneg_right pos), ?_⟩
  have closest := nearest.closest a onGrid
  have distance : |(r - (a + h) : ℤ)| ≤ |(a - (a + h) : ℤ)| := by exact_mod_cast closest
  rw [sub_add_cancel_left, abs_neg, abs_of_nonneg pos] at distance
  have := (abs_le.1 distance).2
  omega

/-- A number without a bit for the half, nor for twice the half, is left as it is. -/
theorem IsNearest.eq_of_wide (nearest : IsNearest (a + h : ℤ) r) (onGrid : OnGrid a) {k : ℕ}
    (half : 4 * h = 2 ^ k) (wide : 2 ^ 52 * 2 ^ k ≤ a ∨ a < -(2 ^ 52 * 2 ^ k)) : r = a := by
  have unit : (0 : ℤ) < 2 ^ k := by positivity
  obtain ⟨low, high⟩ := nearest.within onGrid (by omega)
  have size (b : ℤ) (large : 2 ^ 52 * 2 ^ k ≤ b ∨ b ≤ -(2 ^ 52 * 2 ^ k)) : 2 ^ 52 * 2 ^ k ≤ b.natAbs := by
    zify
    rw [le_abs]
    omega
  obtain ⟨q, rfl⟩ : 2 ^ k ∣ a := onGrid.dvd (size a (by omega))
  have wideR : 2 ^ 52 * 2 ^ k ≤ r ∨ r ≤ -(2 ^ 52 * 2 ^ k) := by
    refine wide.imp (fun above => above.trans low) fun below => ?_
    have next : q + 1 ≤ -2 ^ 52 := by
      rw [← neg_mul, mul_comm] at below
      exact lt_of_mul_lt_mul_right below unit.le
    have scaled := mul_le_mul_of_nonneg_left next unit.le
    rw [mul_add, mul_one, mul_neg, mul_comm _ (2 ^ 52)] at scaled
    omega
  -- so the rounded sum is a multiple of the same power, and there is no other one between
  obtain ⟨q', rfl⟩ : 2 ^ k ∣ r := nearest.onGrid.dvd (size r wideR)
  have first : q ≤ q' := le_of_mul_le_mul_left low unit
  have second : q' < q + 1 := by
    refine lt_of_mul_lt_mul_left ?_ unit.le
    rw [mul_add, mul_one]
    omega
  rw [show q' = q by omega]

end Sums

theorem four_mul_half : 4 * (2 : ℤ) ^ 1073 = 2 ^ 1075 := by
  rw [show (4 : ℤ) = 2 ^ 2 by norm_num, ← pow_add]

theorem two_mul_half : 2 * (2 : ℤ) ^ 1073 = 2 ^ 1074 := by rw [← pow_succ']

theorem exists_sum (value : exactValue? x = some (.units a)) :
    ∃ r, IsNearest (a + 2 ^ 1073 : ℤ) r ∧ exactValue? (x + 0.5) = some (.units r) := by
  obtain ⟨onGrid, inRange⟩ := onGrid_of_exactValue? value
  have rounds := roundsTo_add value exactValue?_half
  rw [← Int.cast_add] at rounds
  obtain ⟨r, nearest, packed⟩ := rounds
  refine ⟨r, nearest, ?_⟩
  rw [packed, packedValue_of_lt]
  by_cases wide : 2 ^ 52 * 2 ^ 1075 ≤ a ∨ a < -(2 ^ 52 * 2 ^ 1075)
  · rwa [nearest.eq_of_wide onGrid four_mul_half wide]
  · obtain ⟨low, high⟩ := nearest.within onGrid (pow_nonneg zero_le_two _)
    have room : 2 ^ 53 * 2 ^ 1075 < ceiling := scaled_lt_ceiling_of_le le_rfl (by norm_num)
    have large : ((2 ^ 53 * 2 ^ 1075 : ℕ) : ℤ) = 2 ^ 53 * 2 ^ 1075 := by
      rw [Nat.cast_mul, Nat.cast_pow, Nat.cast_pow, Nat.cast_ofNat]
    have pos : (0 : ℤ) < 2 ^ 1073 := pow_pos two_pos _
    rw [← four_mul_half] at wide large
    generalize (2 : ℤ) ^ 1073 = h at *
    generalize 2 ^ 53 * 2 ^ 1075 = l at *
    omega

/-! ## §3 Floors -/

theorem ediv_eq_of_le_of_lt {b q : ℤ} (pos : 0 < b) (low : q * b ≤ a) (high : a < (q + 1) * b) : a / b = q :=
  le_antisymm (Int.lt_add_one_iff.1 (Int.ediv_lt_of_lt_mul pos high)) (Int.le_ediv_of_mul_le pos low)

theorem unit_pos : (0 : ℤ) < 2 ^ 1074 := pow_pos two_pos _

/-- The floor of the exact sum of a whole number and one half. -/
theorem floor_whole_add_half (z : ℤ) : (z * 2 ^ 1074 + 2 ^ 1073) / 2 ^ 1074 = z := by
  have half : (0 : ℤ) < 2 ^ 1073 := pow_pos two_pos _
  refine ediv_eq_of_le_of_lt unit_pos (le_add_of_nonneg_right half.le) ?_
  rw [add_mul, one_mul, ← two_mul_half]
  omega

/-- A whole number comes out as itself where there is room for the half, and also where there is none on
either side. -/
theorem floor?_whole_add_half (value : exactValue? x = some (.ofInt z)) (loose : ¬ IsTight z) :
    floor? (x + 0.5) = some z := by
  obtain ⟨r, nearest, sum⟩ := exists_sum value
  rw [floor?_of_units sum]
  refine congrArg some ?_
  -- within `2 ^ 52` the half is kept, and beyond `2 ^ 53` the sum is rounded back to the number
  by_cases room : -2 ^ 52 ≤ z ∧ z < 2 ^ 52
  · have doubled : z * 2 ^ 1074 + 2 ^ 1073 = (2 * z + 1) * 2 ^ 1073 := by
      rw [← two_mul_half, add_mul, one_mul, ← mul_assoc, mul_comm z 2]
    have onGrid : OnGrid (z * 2 ^ 1074 + 2 ^ 1073) := by
      rw [doubled]
      exact onGrid_scaled (by omega) 1073
    rw [nearest.eq onGrid, floor_whole_add_half]
  · have wide : 2 ^ 53 ≤ z ∨ z < -2 ^ 53 := by
      unfold IsTight at loose
      omega
    have scaled : (2 : ℤ) ^ 52 * 2 ^ 1075 = 2 ^ 53 * 2 ^ 1074 := by rw [← pow_add, ← pow_add]
    have kept : r = z * 2 ^ 1074 := by
      refine nearest.eq_of_wide (onGrid_of_exactValue? value).1 four_mul_half ?_
      rw [scaled, ← neg_mul]
      exact wide.imp (fun above => mul_le_mul_of_nonneg_right above unit_pos.le)
        fun below => mul_lt_mul_of_pos_right below unit_pos
    rw [kept, Int.mul_ediv_cancel _ unit_pos.ne']

/-- Below one half the sum does not come to one, except for the greatest `Float` there. -/
theorem IsNearest.lt_of_lt_half {k : ℕ} (nearest : IsNearest (a + 2 ^ 53 * 2 ^ k : ℤ) r) (onGrid : OnGrid a)
    (nonneg : 0 ≤ a) (below : a < 2 ^ 53 * 2 ^ k) (regular : a ≠ 2 ^ 53 * 2 ^ k - 2 ^ k) :
    r < 2 ^ 53 * 2 ^ (k + 1) := by
  have unit : (0 : ℤ) < 2 ^ k := pow_pos two_pos k
  have last : a ≤ 2 ^ 53 * 2 ^ k - 2 * 2 ^ k := by
    by_contra close
    obtain ⟨q, rfl⟩ : 2 ^ k ∣ a := onGrid.dvd (by zify; rw [abs_of_nonneg nonneg]; omega)
    have first : q < 2 ^ 53 := by
      rw [mul_comm] at below
      exact lt_of_mul_lt_mul_right below unit.le
    have second : q ≠ 2 ^ 53 - 1 := by
      rintro rfl
      exact regular (by ring)
    have scaled := mul_le_mul_of_nonneg_left (show q ≤ 2 ^ 53 - 2 by omega) unit.le
    rw [mul_sub, mul_comm _ (2 ^ 53), mul_comm _ 2] at scaled
    exact close scaled
  -- so the sum is not above the greatest number below one
  have gap : OnGrid ((2 ^ 53 - 1) * 2 ^ (k + 1)) := onGrid_scaled (by norm_num) (k + 1)
  have rounded : r ≤ (2 ^ 53 - 1) * 2 ^ (k + 1) := by
    refine nearest.le gap (Int.cast_le.2 ?_)
    rw [pow_succ']
    omega
  rw [pow_succ'] at rounded ⊢
  omega

/-- A fraction of at least one half has bits enough for the sum, unless this is beyond the next power of two,
and that is a whole number. -/
theorem IsNearest.ediv_eq_of_half_le {m j k : ℕ} (nearest : IsNearest ((m * 2 ^ j + 2 ^ k * 2 ^ j : ℤ) : ℚ) r)
    (fits : m < 2 ^ 53) (few : k ≤ 52) :
    r / (2 * (2 ^ k * 2 ^ j)) = (m * 2 ^ j + 2 ^ k * 2 ^ j) / (2 * (2 ^ k * 2 ^ j)) := by
  have step : (0 : ℤ) < 2 ^ j := pow_pos two_pos j
  have half : (0 : ℤ) < 2 ^ k * 2 ^ j := mul_pos (pow_pos two_pos k) step
  rcases Nat.lt_or_ge (2 ^ 53) (m + 2 ^ k) with beyond | room
  · -- both the sum and what it is rounded to lie beyond the same whole number
    have power : (2 : ℤ) ^ (52 - k) * (2 * (2 ^ k * 2 ^ j)) = 2 ^ 53 * 2 ^ j := by
      have parts : (2 : ℤ) ^ (52 - k) * 2 ^ k = 2 ^ 52 := by rw [← pow_add, Nat.sub_add_cancel few]
      rw [mul_left_comm, ← mul_assoc _ _ (2 ^ j), parts, ← mul_assoc, ← pow_succ']
    have onGrid : OnGrid (2 ^ 53 * 2 ^ j) := by exact_mod_cast onGrid_of_le (n := 2 ^ 53) le_rfl j
    have passed : (2 : ℤ) ^ 53 * 2 ^ j ≤ m * 2 ^ j + 2 ^ k * 2 ^ j := by
      rw [← add_mul]
      exact mul_le_mul_of_nonneg_right (by exact_mod_cast beyond.le) step.le
    have start : (m : ℤ) * 2 ^ j < 2 ^ 53 * 2 ^ j :=
      mul_lt_mul_of_pos_right (by exact_mod_cast fits) step
    have low := nearest.ge onGrid (Int.cast_le.2 passed)
    have high := (nearest.within (onGrid_of_le fits.le j) half.le).2
    rw [← power] at low passed start
    rw [ediv_eq_of_le_of_lt (by omega) low (by rw [add_mul]; omega),
      ediv_eq_of_le_of_lt (by omega) passed (by rw [add_mul]; omega)]
  · have onGrid : OnGrid (m * 2 ^ j + 2 ^ k * 2 ^ j) := by
      rw [← add_mul]
      exact_mod_cast onGrid_of_le room j
    rw [nearest.eq onGrid]

/-- Below zero the sum needs no more bits than the fraction, unless it is not negative. -/
theorem IsNearest.ediv_eq_of_neg {m j k : ℕ} (nearest : IsNearest ((-(m * 2 ^ j) + 2 ^ k * 2 ^ j : ℤ) : ℚ) r)
    (fits : m < 2 ^ 53) :
    r / (2 * (2 ^ k * 2 ^ j)) = (-(m * 2 ^ j) + 2 ^ k * 2 ^ j) / (2 * (2 ^ k * 2 ^ j)) := by
  have step : (0 : ℤ) < 2 ^ j := pow_pos two_pos j
  have half : (0 : ℤ) < 2 ^ k * 2 ^ j := mul_pos (pow_pos two_pos k) step
  rcases Nat.lt_or_ge m (2 ^ k) with small | large
  · -- the sum lies between zero and the half, and so does what it is rounded to
    have amount : (0 : ℤ) ≤ m * 2 ^ j := by positivity
    have less : (m : ℤ) * 2 ^ j ≤ 2 ^ k * 2 ^ j :=
      mul_le_mul_of_nonneg_right (by exact_mod_cast small.le) step.le
    have onGrid : OnGrid (2 ^ k * 2 ^ j) := by
      rw [← pow_add, ← one_mul (2 ^ (k + j))]
      exact onGrid_scaled (by norm_num) (k + j)
    have low := nearest.ge onGrid_zero (Int.cast_le.2 (by omega))
    have high := nearest.le onGrid (Int.cast_le.2 (by omega))
    rw [Int.ediv_eq_zero_of_lt low (by omega), Int.ediv_eq_zero_of_lt (by omega) (by omega)]
  · have onGrid : OnGrid (-(m * 2 ^ j) + 2 ^ k * 2 ^ j) := by
      have difference : -((m : ℤ) * 2 ^ j) + 2 ^ k * 2 ^ j = -((m - 2 ^ k : ℕ) * 2 ^ j) := by
        rw [Nat.cast_sub large]
        push_cast
        ring
      rw [difference]
      exact (onGrid_of_le ((Nat.sub_le _ _).trans fits.le) j).neg
    rw [nearest.eq onGrid]

/-- A fraction comes out as the floor of the exact sum, if it is not the greatest one below one half. -/
theorem floor?_fraction_add_half (value : exactValue? x = some (.units a)) (fraction : ¬ 2 ^ 1074 ∣ a)
    (regular : a ≠ 2 ^ 1073 - 2 ^ 1020) : floor? (x + 0.5) = some ((a + 2 ^ 1073) / 2 ^ 1074) := by
  obtain ⟨r, nearest, sum⟩ := exists_sum value
  rw [floor?_of_units sum]
  refine congrArg some ?_
  have onGrid := (onGrid_of_exactValue? value).1
  obtain ⟨m, j, fits, size⟩ := id onGrid
  -- a number on a coarser grid would be whole
  have short : j < 1074 := by
    by_contra long
    refine fraction ?_
    rw [← Int.natAbs_dvd_natAbs, size, Int.natAbs_pow]
    exact Dvd.dvd.mul_left (pow_dvd_pow 2 (not_lt.1 long)) m
  have half : (2 : ℤ) ^ 1073 = 2 ^ (1073 - j) * 2 ^ j := by
    rw [← pow_add, Nat.sub_add_cancel (by omega)]
  have magnitude : (a.natAbs : ℤ) = m * 2 ^ j := by
    rw [size]
    push_cast
    rfl
  rcases Int.natAbs_eq a with positive | negative
  · have split : (2 : ℤ) ^ 1073 = 2 ^ 53 * 2 ^ 1020 := by rw [← pow_add]
    -- below one half the sum stays below one; from there on its bits fit, or it passes the next power of two
    rcases lt_or_ge a (2 ^ 1073) with below | above
    · have nonneg : 0 ≤ a := by omega
      have low := (nearest.within onGrid (pow_nonneg zero_le_two _)).1
      rw [split] at nearest below regular
      have high := nearest.lt_of_lt_half onGrid nonneg below regular
      rw [← split] at below
      rw [← pow_add] at high
      have sum : a + 2 ^ 1073 < 2 ^ 1074 := by
        rw [← two_mul_half, two_mul]
        exact add_lt_add_left below _
      rw [Int.ediv_eq_zero_of_lt (nonneg.trans low) high,
        Int.ediv_eq_zero_of_lt (add_nonneg nonneg (pow_nonneg zero_le_two _)) sum]
    · have large : 2 ^ 52 * 2 ^ 1021 ≤ m * 2 ^ j := by
        rw [← size, ← pow_add]
        refine Int.ofNat_le.1 ?_
        rwa [Nat.cast_pow, Nat.cast_ofNat, ← positive]
      have long := exponent_le_of_large fits large
      rw [positive, magnitude, half] at nearest
      rw [← two_mul_half, positive, magnitude, half]
      exact nearest.ediv_eq_of_half_le fits (by omega)
  · rw [negative, magnitude, half] at nearest
    rw [← two_mul_half, negative, magnitude, half]
    exact nearest.ediv_eq_of_neg fits

theorem belowHalf_eq : (2 : ℤ) ^ 1073 - 2 ^ 1020 = (2 ^ 53 - 1) * 2 ^ 1020 := by
  rw [sub_mul, one_mul, ← pow_add]

theorem exactValue?_belowHalf : exactValue? 0.49999999999999994 = some (.units (2 ^ 1073 - 2 ^ 1020)) := by
  rw [belowHalf_eq]
  rfl

/-- In units the number before one half is one half less the least difference of `Float`s there. -/
theorem cast_belowHalf : ((2 ^ 1073 - 2 ^ 1020 : ℤ) : ℚ) = (1 / 2 - 1 / 2 ^ 54) * 2 ^ 1074 := by
  have half : (1 / 2 : ℚ) * 2 ^ 1074 = 2 ^ 1073 := by
    rw [div_mul_eq_mul_div, one_mul, div_eq_iff two_ne_zero, ← pow_succ]
  have least : (1 / 2 ^ 54 : ℚ) * 2 ^ 1074 = 2 ^ 1020 := by
    rw [div_mul_eq_mul_div, one_mul, div_eq_iff (pow_ne_zero _ two_ne_zero), ← pow_add]
  rw [sub_mul, half, least, Int.cast_sub, Int.cast_pow, Int.cast_pow, Int.cast_ofNat]

/-- The greatest `Float` below one half comes out as one. -/
theorem floor?_belowHalf_add_half (value : exactValue? x = some (.units (2 ^ 1073 - 2 ^ 1020))) :
    floor? (x + 0.5) = some 1 := by
  have nonzero : Exact.units (2 ^ 1073 - 2 ^ 1020) ≠ .units 0 := by
    rw [belowHalf_eq]
    exact fun same => mul_ne_zero (by norm_num) (pow_ne_zero 1020 two_ne_zero) (Exact.units_injective same)
  rw [eq_of_exactValue? value exactValue?_belowHalf nonzero]
  rfl

/-! ## §4 What is Missed -/

/-- The numbers whose sum with one half is rounded up to a whole number, and the whole numbers that are
rounded themselves. -/
inductive IsMissed : ℚ → Prop where
  | belowHalf : IsMissed (1 / 2 - 1 / 2 ^ 54)
  | odd {z : ℤ} (odd : z % 2 = 1) (above : 2 ^ 52 < |z|) (below : |z| < 2 ^ 53) : IsMissed z
  | rounded {z : ℤ} (rounded : ¬ IsFloat z) : IsMissed z

/-- The floor of an exact sum with one half, in units. -/
theorem ediv_eq_floor {q : ℚ} {h : ℤ} (pos : 0 < h) (units : (a : ℚ) = q * (2 * h)) :
    (a + h) / (2 * h) = ⌊q + 1 / 2⌋ := by
  have half : (0 : ℚ) < h := by exact_mod_cast pos
  have low : (((a + h) / (2 * h) : ℤ) : ℚ) * (2 * h) ≤ a + h := by
    exact_mod_cast Int.ediv_mul_le (a + h) (by omega : 2 * h ≠ 0)
  have high : (a + h : ℚ) < (((a + h) / (2 * h) : ℤ) + 1 : ℚ) * (2 * h) := by
    exact_mod_cast Int.lt_ediv_add_one_mul_self (a + h) (by omega : 0 < 2 * h)
  have sum : (a + h : ℚ) = (q + 1 / 2) * (2 * h) := by
    rw [units]
    ring
  rw [sum] at low high
  refine (Int.floor_eq_iff.2 ⟨?_, ?_⟩).symm
  · exact le_of_mul_le_mul_right low (by linarith)
  · exact lt_of_mul_lt_mul_right high (by linarith)

theorem floor_whole_half (z : ℤ) : ⌊(z : ℚ) + 1 / 2⌋ = z := by
  rw [Int.floor_intCast_add]
  norm_num

theorem isMissed_intCast : IsMissed z ↔ (z % 2 = 1 ∧ 2 ^ 52 < |z| ∧ |z| < 2 ^ 53) ∨ ¬ IsFloat z := by
  constructor
  · generalize amount : (z : ℚ) = q
    intro missed
    cases missed with
    | belowHalf =>
      have doubled : z * 2 ^ 54 = 2 ^ 53 - 1 := by
        have : (z : ℚ) * 2 ^ 54 = 2 ^ 53 - 1 := by
          rw [amount]
          norm_num
        exact_mod_cast this
      omega
    | @odd z' odd above below =>
      cases Int.cast_injective amount
      exact .inl ⟨odd, above, below⟩
    | @rounded z' rounded =>
      cases Int.cast_injective amount
      exact .inr rounded
  · rintro (⟨odd, above, below⟩ | rounded)
    · exact .odd odd above below
    · exact .rounded rounded

/-- The floor of the sum with one half, as it should be and as it is for a missed number. -/
def IsHalfUp (q : ℚ) (k : ℤ) : Prop := ¬ IsMissed q ∧ k = ⌊q + 1 / 2⌋ ∨ IsMissed q ∧ k = ⌊q + 1 / 2⌋ + 1

variable {q : ℚ}

theorem floor?_float_add_half (value : exactValue? x = some (.ofInt z)) :
    ∃ k, floor? (x + 0.5) = some k ∧ IsHalfUp z k := by
  have float := isFloat_of_exactValue? value
  unfold IsHalfUp
  rw [floor_whole_half, isMissed_intCast, or_iff_left (not_not.2 float)]
  by_cases tight : IsTight z
  · have sum := exactValue?_add_half_of_tight value tight
    refine ⟨z + z % 2, ?_, ?_⟩
    · rw [floor?_of_units sum, Int.mul_ediv_cancel _ unit_pos.ne']
    · unfold IsTight at tight
      rw [lt_abs, abs_lt]
      omega
  · refine ⟨z, floor?_whole_add_half value tight, .inl ⟨?_, rfl⟩⟩
    unfold IsTight at tight
    rw [lt_abs, abs_lt]
    omega

/-- The sum of a finite `Float` with one half is missed or not. -/
theorem floor?_add_half (value : exactValue? x = some (.units a)) (units : (a : ℚ) = q * 2 ^ 1074) :
    ∃ k, floor? (x + 0.5) = some k ∧ IsHalfUp q k := by
  have unit : (2 : ℚ) ^ 1074 ≠ 0 := pow_ne_zero _ two_ne_zero
  have whole (z : ℤ) (same : q = z) : a = z * 2 ^ 1074 := by
    rw [same] at units
    refine (Int.cast_inj (α := ℚ)).1 ?_
    rw [units, Int.cast_mul, Int.cast_pow, Int.cast_ofNat]
  -- a whole number is rounded itself; of the fractions only the greatest below one half is missed
  by_cases divides : 2 ^ 1074 ∣ a
  · obtain ⟨z, rfl⟩ := divides
    have same : q = z := by
      rw [Int.cast_mul, Int.cast_pow, Int.cast_ofNat, mul_comm] at units
      exact (mul_right_cancel₀ unit units).symm
    rw [mul_comm] at value
    rw [same]
    exact floor?_float_add_half value
  · have fraction (z : ℤ) : q ≠ z := by
      intro same
      rw [whole z same] at divides
      exact divides (dvd_mul_left _ _)
    have last : a = 2 ^ 1073 - 2 ^ 1020 ↔ q = 1 / 2 - 1 / 2 ^ 54 := by
      rw [← Int.cast_inj (α := ℚ), units, cast_belowHalf, mul_left_inj' unit]
    by_cases regular : a = 2 ^ 1073 - 2 ^ 1020
    · rw [regular] at value
      refine ⟨1, floor?_belowHalf_add_half value, ?_⟩
      rw [last.1 regular]
      refine .inr ⟨.belowHalf, ?_⟩
      norm_num
    · refine ⟨_, floor?_fraction_add_half value divides regular, .inl ⟨fun missed => ?_, ?_⟩⟩
      · cases missed with
        | belowHalf => exact regular (last.2 rfl)
        | odd _ _ _ => exact fraction _ rfl
        | rounded _ => exact fraction _ rfl
      · rw [← two_mul_half]
        refine ediv_eq_floor (pow_pos two_pos _) ?_
        rw [units, Int.cast_pow, Int.cast_ofNat, ← pow_succ']

end TickCircuit.Binary

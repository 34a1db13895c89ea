import TickCircuit.Proofs.Number.Order

/-!
# Whole Parts and Remainders

Whole parts are taken of the units that a finite `Float` stands for (`floor?_of_units`,
`truncate?_of_units`), and so is the remainder of a division: it has no more bits than one of the
operands, so nothing is rounded (`exactValue?_remainder`).

Whole numbers come into this by way of the nearest `Float`, which stands for a whole number again
(`exactValue?_ofInt`). For those with at most 53 bits before their trailing zeros it is the same number
(`IsFloat`).
-/

namespace TickCircuit.Binary

open Float.Model Float.Model.UnpackedFloat

variable {x y : Float} {a b : ℤ}

/-! ## §1 Whole Parts -/

theorem floorScaled_eq (n : ℤ) {e : ℤ} (least : -1074 ≤ e) :
    floorScaled n e = n * 2 ^ (e + 1074).toNat / 2 ^ 1074 := by
  unfold floorScaled
  split
  · next whole =>
    rw [show (e + 1074).toNat = e.toNat + 1074 by omega, pow_add, ← mul_assoc,
      Int.mul_ediv_cancel _ (pow_ne_zero _ two_ne_zero)]
    norm_cast
  · next fraction =>
    have shift : 1074 = (-e).toNat + (e + 1074).toNat := by omega
    conv_rhs => rw [shift, pow_add, Int.mul_ediv_mul_of_pos_left _ _ (pow_pos two_pos _)]
    norm_cast

theorem floor?_of_units (value : exactValue? x = some (.units a)) : floor? x = some (a / 2 ^ 1074) := by
  have units := isUnits_unpack value
  unfold floor?
  generalize x.toModel.unpack = f at units
  cases units with
  | zero s => exact congrArg some (Int.zero_ediv _).symm
  | finite s pos canonical => exact congrArg some (floorScaled_eq _ canonical.least)

theorem truncate?_of_units (value : exactValue? x = some (.units a)) :
    truncate? x = some (a.tdiv (2 ^ 1074)) := by
  have units := isUnits_unpack value
  unfold truncate?
  generalize x.toModel.unpack = f at units
  cases units with
  | zero s => exact congrArg some (Int.zero_tdiv _).symm
  | @finite s m e pos canonical =>
    refine congrArg some ?_
    have magnitude : (0 : ℤ) ≤ m * 2 ^ (e + 1074).toNat := by positivity
    rw [floorScaled_eq _ canonical.least, ← Int.tdiv_eq_ediv_of_nonneg magnitude]
    cases s with
    | positive => rfl
    | negative => rw [Sign.apply, Sign.apply, neg_mul, Int.neg_tdiv]

theorem isWhole_iff (value : exactValue? x = some (.units a)) : isWhole x = true ↔ 2 ^ 1074 ∣ a := by
  have units := isUnits_unpack value
  unfold isWhole
  generalize x.toModel.unpack = f at units
  cases units with
  | zero s => exact iff_of_true rfl (dvd_zero _)
  | @finite s m e pos canonical =>
    have least := canonical.least
    have two : (2 : ℤ).natAbs = 2 := rfl
    have size : (s.apply (m : ℤ) * 2 ^ (e + 1074).toNat).natAbs = m * 2 ^ (e + 1074).toNat := by
      rw [natAbs_scaled, natAbs_apply]
    rw [← Int.natAbs_dvd_natAbs, size, Int.natAbs_pow, two, Bool.or_eq_true, decide_eq_true_iff, beq_iff_eq]
    rcases le_or_gt 0 e with whole | fraction
    · refine iff_of_true (.inl whole) (Dvd.dvd.mul_left (pow_dvd_pow 2 ?_) m)
      omega
    · have shift : 1074 = (-e).toNat + (e + 1074).toNat := by omega
      conv_rhs => rw [shift, pow_add, Nat.mul_dvd_mul_iff_right (pow_pos two_pos _)]
      rw [or_iff_right (not_le.2 fraction), Nat.dvd_iff_mod_eq_zero]
      rfl

/-! ## §2 Quotients of Natural Numbers -/

theorem roundsTo_signedZero (negative : Bool) : RoundsTo 0 (signedZero negative) := by
  cases negative with
  | false => exact_mod_cast (IsUnits.zero .positive).roundsTo
  | true => exact_mod_cast (IsUnits.zero .negative).roundsTo

/-- The sign of a quotient, as a factor. -/
def factor (negative : Bool) : ℤ := if negative then -1 else 1

theorem roundsTo_ofRatio (negative : Bool) (num : ℕ) {den : ℕ} (pos : 0 < den) :
    RoundsTo (factor negative * (num / den * 2 ^ 1074)) (ofRatio negative num den) := by
  unfold ofRatio
  split
  · next zero =>
    rw [zero, Nat.cast_zero, zero_div, zero_mul, mul_zero]
    exact roundsTo_signedZero negative
  rw [dif_neg pos.ne']
  next nonzero =>
  have posNum : 0 < num := Nat.pos_of_ne_zero nonzero
  generalize sign : (if negative then Sign.negative else .positive) = s
  have unit : factor negative = (s / .positive).apply 1 := by
    rw [← sign]
    cases negative <;> rfl
  have target : Format.binary64.targetExponent (totalExponent num 0 - totalExponent den 0) =
      max ((num.log2 : ℤ) + 0 - (den.log2 + 0) - 53) (-1074) := by
    have bits : ((Format.binary64.mantissaBits : Nat) : Int) = 53 := rfl
    have least : Format.binary64.minExponent = -1074 := rfl
    rw [Format.targetExponent, totalExponent, totalExponent, bits, least]
    omega
  have low : dividedExponent num 0 den 0 ≤ 0 := min_le_left _ _
  have rounds := roundsTo_roundWithAccuracy (s / .positive) (quotient_le_shiftedExponent posNum pos)
    (holds_quotient (num * 2 ^ (0 - 0 - dividedExponent num 0 den 0).toNat) pos)
  -- the shift of the dividend is taken back by the exponent
  have scaled : ((num * 2 ^ (0 - 0 - dividedExponent num 0 den 0).toNat : ℕ) : ℚ) / den *
      2 ^ (dividedExponent num 0 den 0 + 1074) = num / den * 2 ^ 1074 := by
    generalize dividedExponent num 0 den 0 = f at low
    have places : (2 : ℚ) ^ (0 - 0 - f).toNat * 2 ^ (f + 1074) = 2 ^ 1074 := by
      rw [← zpow_natCast, ← zpow_natCast, ← zpow_add₀ two_ne_zero]
      congr 1
      omega
    rw [← places]
    push_cast
    ring
  rw [scaled, ← unit] at rounds
  unfold UnpackedFloat.div divCore
  dsimp only
  rw [target, Nat.shiftLeft_eq]
  exact rounds

/-! ## §3 Remainders -/

/-- What a finite `Float` stands for, counted in steps of a lower exponent. -/
theorem scaled_eq_of_le (s : Sign) (m : ℕ) {e low : ℤ} (least : -1074 ≤ low) (below : low ≤ e) :
    s.apply (m : ℤ) * 2 ^ (e + 1074).toNat =
      s.apply ((m * 2 ^ (e - low).toNat : ℕ) : ℤ) * 2 ^ (low + 1074).toNat := by
  have shift : (e + 1074).toNat = (e - low).toNat + (low + 1074).toNat := by omega
  rw [shift, pow_add]
  cases s <;> simp only [Sign.apply] <;> push_cast <;> ring

theorem tmod_scaled (s s' : Sign) (M M' k : ℕ) :
    (s.apply (M : ℤ) * 2 ^ k).tmod (s'.apply (M' : ℤ) * 2 ^ k) = s.apply ((M % M' : ℕ) : ℤ) * 2 ^ k := by
  have divisor : (s.apply (M : ℤ) * 2 ^ k).tmod (s'.apply (M' : ℤ) * 2 ^ k) =
      (s.apply (M : ℤ) * 2 ^ k).tmod (M' * 2 ^ k) := by
    cases s' with
    | positive => rfl
    | negative => rw [Sign.apply, neg_mul, Int.tmod_neg]
  have whole : ((M : ℤ) * 2 ^ k).tmod (M' * 2 ^ k) = (M % M' : ℕ) * 2 ^ k := by
    rw [← Nat.cast_ofNat, ← Nat.cast_pow, ← Nat.cast_mul, ← Nat.cast_mul, ← Int.ofNat_tmod,
      Nat.mul_mod_mul_right, Nat.cast_mul]
  rw [divisor]
  cases s with
  | positive => exact whole
  | negative => rw [Sign.apply, Sign.apply, neg_mul, neg_mul, Int.neg_tmod, whole]

/-- The quotient that a remainder is formed as, in units. -/
theorem roundsTo_scaledRest (s : Sign) (rest : ℕ) {low : ℤ} (least : -1074 ≤ low) :
    RoundsTo ((s.apply (rest : ℤ) * 2 ^ (low + 1074).toNat : ℤ) : ℚ)
      (if 0 ≤ low then ofRatio (s.apply 1 < 0) (rest * Nat.pow 2 low.toNat) 1
        else ofRatio (s.apply 1 < 0) rest (Nat.pow 2 (-low).toNat)) := by
  have sign : ((s.apply (rest : ℤ) : ℤ) : ℚ) = factor (s.apply 1 < 0) * rest := by
    cases s <;> simp [Sign.apply, factor]
  rw [Int.cast_mul, sign]
  -- the power of two stands in the dividend or in the divisor, whichever keeps both whole
  split
  · next whole =>
    have rounds := roundsTo_ofRatio (s.apply 1 < 0) (rest * 2 ^ low.toNat) one_pos
    have places : (((rest * 2 ^ low.toNat : ℕ) : ℚ) / (1 : ℕ) * 2 ^ 1074 : ℚ) =
        rest * ((2 ^ (low + 1074).toNat : ℤ) : ℚ) := by
      rw [show (low + 1074).toNat = low.toNat + 1074 by omega]
      push_cast
      rw [div_one, pow_add, mul_assoc]
    rw [places, ← mul_assoc] at rounds
    exact rounds
  · next fraction =>
    have rounds := roundsTo_ofRatio (s.apply 1 < 0) rest (pow_pos two_pos (-low).toNat)
    have places : ((rest : ℚ) / ((2 ^ (-low).toNat : ℕ) : ℚ) * 2 ^ 1074 : ℚ) =
        rest * ((2 ^ (low + 1074).toNat : ℤ) : ℚ) := by
      have shift : 1074 = (-low).toNat + (low + 1074).toNat := by omega
      conv_lhs => rw [shift]
      push_cast
      rw [pow_add, div_mul_eq_mul_div, mul_div_assoc, mul_div_cancel_left₀ _ (pow_ne_zero _ two_ne_zero)]
    rw [places, ← mul_assoc] at rounds
    exact rounds

/-- A remainder is exact: it is smaller than the divisor and no larger than the dividend, so the mantissa
of one of them has room for it. -/
theorem exactValue?_remainder (valueX : exactValue? x = some (.units a))
    (valueY : exactValue? y = some (.units b)) (nonzero : b ≠ 0) :
    exactValue? (remainder x y) = some (.units (a.tmod b)) := by
  have inRange : (a.tmod b).natAbs < ceiling := by
    rw [Int.natAbs_tmod]
    exact (Nat.mod_le _ _).trans_lt (onGrid_of_exactValue? valueX).2
  have unitsX := isUnits_unpack valueX
  have unitsY := isUnits_unpack valueY
  unfold remainder
  generalize x.toModel.unpack = f at unitsX
  generalize y.toModel.unpack = g at unitsY
  cases unitsY with
  | zero s' => exact absurd rfl nonzero
  | @finite s' m' e' pos' canonical' =>
    cases unitsX with
    | zero s =>
      rw [Int.zero_tmod]
      exact valueX
    | @finite s m e pos canonical =>
      dsimp only
      have least : -1074 ≤ min e e' := le_min canonical.least canonical'.least
      rw [scaled_eq_of_le s m least (min_le_left e e'), scaled_eq_of_le s' m' least (min_le_right e e'),
        tmod_scaled] at inRange ⊢
      -- the smaller of the two exponents is that of the dividend or that of the divisor
      have fits : m * 2 ^ (e - min e e').toNat % (m' * 2 ^ (e' - min e e').toNat) < 2 ^ 53 := by
        rcases le_total e e' with first | second
        · rw [min_eq_left first, sub_self]
          exact (Nat.mod_le _ _).trans_lt (by simpa using canonical.fits)
        · rw [min_eq_right second, sub_self]
          exact (Nat.mod_lt _ (by simpa using pos')).trans (by simpa using canonical'.fits)
      refine (roundsTo_scaledRest s _ least).exactValue?_eq (onGrid_scaled ?_ _) inRange
      rwa [natAbs_apply]

/-! ## §4 Whole Numbers as `Float`s -/

/-- A mantissa of 53 bits comes to something large only by its exponent. -/
theorem exponent_le_of_large {m j k : ℕ} (fits : m < 2 ^ 53) (large : 2 ^ 52 * 2 ^ k ≤ m * 2 ^ j) : k ≤ j := by
  by_contra narrow
  have small : m * 2 ^ j < 2 ^ 52 * 2 ^ k := by
    calc m * 2 ^ j < 2 ^ 53 * 2 ^ j := Nat.mul_lt_mul_of_pos_right fits (by positivity)
      _ = 2 ^ (53 + j) := (pow_add 2 53 j).symm
      _ ≤ 2 ^ (52 + k) := Nat.pow_le_pow_right two_pos (by omega)
      _ = 2 ^ 52 * 2 ^ k := pow_add 2 52 k
  omega

/-- What is large on the grid is a multiple of a power of two. -/
theorem OnGrid.dvd (onGrid : OnGrid b) {k : ℕ} (large : 2 ^ 52 * 2 ^ k ≤ b.natAbs) : 2 ^ k ∣ b := by
  obtain ⟨m, j, fits, size⟩ := onGrid
  rw [size] at large
  rw [← Int.natAbs_dvd_natAbs, size, Int.natAbs_pow]
  exact Dvd.dvd.mul_left (pow_dvd_pow 2 (exponent_le_of_large fits large)) m

theorem onGrid_whole {n : ℤ} (small : n.natAbs ≤ 2 ^ 53) (j : ℕ) : OnGrid (n * 2 ^ j) := by
  have magnitude := onGrid_of_le small j
  rcases Int.natAbs_eq n with positive | negative
  · rw [positive]
    exact magnitude
  · rw [negative, neg_mul]
    exact magnitude.neg

/-- The number `r` is on the grid, and nothing on the grid is between `u` and `r`. -/
structure IsNextTo (u r : ℤ) : Prop where
  onGrid : OnGrid r
  le : ∀ b, OnGrid b → u ≤ b → r ≤ b
  ge : ∀ b, OnGrid b → b ≤ u → b ≤ r

theorem IsNearest.isNextTo {u r : ℤ} (nearest : IsNearest u r) : IsNextTo u r where
  onGrid := nearest.onGrid
  le _ onGrid above := nearest.le onGrid (Int.cast_le.2 above)
  ge _ onGrid below := nearest.ge onGrid (Int.cast_le.2 below)

namespace IsNextTo

variable {u r : ℤ}

theorem eq (next : IsNextTo u r) (onGrid : OnGrid u) : r = u :=
  le_antisymm (next.le u onGrid le_rfl) (next.ge u onGrid le_rfl)

/-- Nothing on the grid lies between them towards zero either. -/
theorem natAbs_le (next : IsNextTo u r) {m j : ℕ} (small : m ≤ 2 ^ 53) (beyond : m * 2 ^ j ≤ u.natAbs) :
    m * 2 ^ j ≤ r.natAbs := by
  have onGrid : OnGrid (m * 2 ^ j : ℕ) := by
    exact_mod_cast onGrid_of_le small j
  generalize m * 2 ^ j = c at beyond onGrid ⊢
  rcases Int.natAbs_eq u with positive | negative
  · have above := next.ge c onGrid (by omega)
    omega
  · have below := next.le (-c) onGrid.neg (by omega)
    omega

/-- Beyond 53 bits what is next to a whole number has no fewer. -/
theorem natAbs_ge_of_large {n : ℤ} {k : ℕ} (next : IsNextTo (n * 2 ^ k) r) (large : 2 ^ 53 ≤ n.natAbs) :
    2 ^ 53 * 2 ^ k ≤ r.natAbs := by
  refine next.natAbs_le le_rfl ?_
  rw [natAbs_scaled]
  exact Nat.mul_le_mul_right _ large

/-- Next to a whole number there is a whole number. -/
theorem dvd {n : ℤ} {k : ℕ} (next : IsNextTo (n * 2 ^ k) r) : 2 ^ k ∣ r := by
  rcases le_or_gt n.natAbs (2 ^ 53) with small | large
  · -- nothing is rounded
    rw [next.eq (onGrid_whole small k)]
    exact dvd_mul_left _ _
  · -- and above that all numbers on the grid are whole
    have rounded := next.natAbs_ge_of_large large.le
    exact next.onGrid.dvd ((Nat.mul_le_mul_right _ (by norm_num)).trans rounded)

end IsNextTo

theorem scaled_lt_ceiling_of_le {m j : ℕ} (small : m ≤ 2 ^ 53) (low : j ≤ 2044) : m * 2 ^ j < ceiling := by
  have wider : m < 2 ^ 54 := by omega
  refine (Nat.mul_lt_mul_of_pos_right wider (by positivity)).trans_le ?_
  rw [← pow_add]
  exact pow_le_ceiling (by omega)

/-- The whole number that the `Float` nearest to `n` stands for. -/
def nearestWhole (n : ℤ) : ℤ := (truncate? (ofInt n)).getD 0

/-- `n` is a `Float` itself. -/
def IsFloat (n : ℤ) : Prop := nearestWhole n = n

instance : DecidablePred IsFloat := fun n => inferInstanceAs (Decidable (nearestWhole n = n))

section Whole

variable {n : ℤ}

theorem nearestWhole_of_units (value : exactValue? (ofInt n) = some (.units (b * 2 ^ 1074))) :
    nearestWhole n = b := by
  rw [nearestWhole, truncate?_of_units value, Option.getD_some]
  exact Int.mul_tdiv_cancel _ (pow_ne_zero _ two_ne_zero)

theorem roundsTo_whole (n : ℤ) : RoundsTo (n * 2 ^ 1074 : ℤ) (ofInt n) := by
  rw [Int.cast_mul, Int.cast_pow, Int.cast_ofNat]
  exact roundsTo_ofInt n

/-- The `Float` nearest to a whole number stands for one. -/
theorem exactValue?_ofInt (inRange : holdsInt n = true) :
    exactValue? (ofInt n) = some (.ofInt (nearestWhole n)) := by
  obtain ⟨r, value⟩ := isFinite_iff.1 inRange
  obtain ⟨r', nearest, value'⟩ := roundsTo_whole n
  obtain ⟨rfl, -⟩ := packedValue_eq_units_iff.1 (Option.some.inj (value'.symm.trans value))
  obtain ⟨c, rfl⟩ := nearest.isNextTo.dvd
  rw [mul_comm] at value
  rw [value, nearestWhole_of_units value]
  rfl

theorem natAbs_nearestWhole_ge (inRange : holdsInt n = true) (large : 2 ^ 53 ≤ n.natAbs) :
    2 ^ 53 ≤ (nearestWhole n).natAbs := by
  obtain ⟨r, nearest, packed⟩ := roundsTo_whole n
  obtain ⟨rfl, -⟩ := packedValue_eq_units_iff.1 (Option.some.inj (packed.symm.trans (exactValue?_ofInt inRange)))
  have rounded := nearest.isNextTo.natAbs_ge_of_large large
  rw [natAbs_scaled] at rounded
  exact Nat.le_of_mul_le_mul_right rounded (pow_pos two_pos _)

/-- What is no more than 53 bits, the last ones zeros, and within the range needs no rounding. -/
theorem exactValue?_ofInt_of_onGrid (onGrid : OnGrid (n * 2 ^ 1074))
    (inRange : (n * 2 ^ 1074).natAbs < ceiling) : exactValue? (ofInt n) = some (.ofInt n) :=
  (roundsTo_whole n).exactValue?_eq onGrid inRange

/-- Being a `Float` is a matter of the exact value. -/
theorem isFloat_iff : IsFloat n ↔ exactValue? (ofInt n) = some (.ofInt n) := by
  refine ⟨fun same => ?_, nearestWhole_of_units⟩
  obtain ⟨r, -, value⟩ := roundsTo_whole n
  rcases value_cases value with ⟨s, infinite, -⟩ | ⟨a, units⟩
  · -- only zero could be made of an infinity, and it is in the range
    have zero : nearestWhole n = 0 := by
      unfold nearestWhole truncate?
      rw [infinite]
      rfl
    cases zero.symm.trans same
    rw [Exact.ofInt_zero]
    rfl
  · rw [units] at value
    have exact_n := exactValue?_ofInt (isFinite_iff.2 ⟨a, value⟩)
    rwa [same] at exact_n

/-- What a `Float` stands for is one, if it is a whole number. -/
theorem isFloat_of_exactValue? (value : exactValue? x = some (.ofInt n)) : IsFloat n := by
  obtain ⟨onGrid, inRange⟩ := onGrid_of_exactValue? value
  exact isFloat_iff.2 (exactValue?_ofInt_of_onGrid onGrid inRange)

/-- Being a `Float` takes few bits and not too many zeros behind them. -/
theorem isFloat_iff_onGrid : IsFloat n ↔ OnGrid (n * 2 ^ 1074) ∧ (n * 2 ^ 1074).natAbs < ceiling := by
  refine ⟨fun float => onGrid_of_exactValue? (isFloat_iff.1 float), fun ⟨onGrid, inRange⟩ => ?_⟩
  exact isFloat_iff.2 (exactValue?_ofInt_of_onGrid onGrid inRange)

theorem isFloat_of_le (small : n.natAbs ≤ 2 ^ 53) : IsFloat n := by
  refine isFloat_iff_onGrid.2 ⟨onGrid_whole small 1074, ?_⟩
  rw [natAbs_scaled]
  exact scaled_lt_ceiling_of_le small (by norm_num)

theorem nearestWhole_nonneg (inRange : holdsInt n = true) (nonneg : 0 ≤ n) : 0 ≤ nearestWhole n := by
  obtain ⟨r, nearest, packed⟩ := roundsTo_whole n
  obtain ⟨rfl, -⟩ := packedValue_eq_units_iff.1 (Option.some.inj (packed.symm.trans (exactValue?_ofInt inRange)))
  have units := nearest.isNextTo.ge 0 onGrid_zero (mul_nonneg nonneg (pow_nonneg zero_le_two _))
  exact nonneg_of_mul_nonneg_left units (pow_pos two_pos _)

theorem nearestWhole_ne_zero (inRange : holdsInt n = true) (nonzero : n ≠ 0) : nearestWhole n ≠ 0 := by
  rcases Nat.lt_or_ge n.natAbs (2 ^ 53) with small | large
  · rwa [isFloat_of_le small.le]
  · have := natAbs_nearestWhole_ge inRange large
    omega

end Whole

end TickCircuit.Binary

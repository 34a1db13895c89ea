import TickCircuit.Number.Mean
import TickCircuit.Proofs.Number.Order

/-!
# Sums and Means of Samples

The order in which the sum of a sample is formed decides its last digits, but not what every order of
addition keeps. So whatever ties `Float`s to weights and is kept by a single addition, as long as the
weights do not exceed some limit, ties the sum of a sample to the sum of its weights (`IsAdditive.sum`).

Two things are kept in this way. Whole numbers that need no more than 53 bits are added exactly, so the
mean of zeros and ones compares with one half as their count does (`half_lt_mean_iff`). And what is bounded
stays within the multiples of its bound, so the sum of a sample of bounded numbers is finite, if there are
not too many of them (`isFinite_sum`); its mean is finite, too (`isFinite_mean`).
-/

namespace TickCircuit.Mean

open Binary

/-! ## §1 Any Order of Addition -/

/-- Additions add up the weights, while these do not exceed the limit. -/
structure IsAdditive (P : Float → ℕ → Prop) (limit : ℕ) : Prop where
  zero : P 0.0 0
  negZero : P (-0.0) 0
  add : ∀ {x y m n}, P x m → P y n → m + n ≤ limit → P (x + y) (m + n)

variable {P : Float → ℕ → Prop} {limit : ℕ}

/-- The accumulators have a weight in all. -/
def Lanes.Weighs (P : Float → ℕ → Prop) (l : Lanes) (weight : ℕ) : Prop :=
  ∃ a b c d e f g h, P l.a a ∧ P l.b b ∧ P l.c c ∧ P l.d d ∧ P l.e e ∧ P l.f f ∧ P l.g g ∧ P l.h h ∧
    weight = a + b + c + d + e + f + g + h

namespace IsAdditive

variable {xs : List Float} {ws : List ℕ}

theorem sumFrom (additive : IsAdditive P limit) (each : List.Forall₂ P xs ws) {x : Float} {m : ℕ}
    (start : P x m) (bound : m + ws.sum ≤ limit) : P (sumFrom x xs) (m + ws.sum) := by
  induction each generalizing x m with
  | nil => exact start
  | @cons y n xs ws first _ ih =>
    rw [List.sum_cons, ← Nat.add_assoc] at bound ⊢
    exact ih (additive.add start first (by omega)) bound

theorem lanesTotal (additive : IsAdditive P limit) {l : Lanes} {m : ℕ} (weighs : l.Weighs P m)
    (bound : m ≤ limit) : P l.total m := by
  obtain ⟨a, b, c, d, e, f, g, h, ha, hb, hc, hd, he, hf, hg, hh, rfl⟩ := weighs
  have left := additive.add (additive.add ha hb (by omega)) (additive.add hc hd (by omega)) (by omega)
  have right := additive.add (additive.add he hf (by omega)) (additive.add hg hh (by omega)) (by omega)
  have total := additive.add left right (by omega)
  rwa [show a + b + (c + d) + (e + f + (g + h)) = a + b + c + d + e + f + g + h by omega] at total

theorem lanesAdd (additive : IsAdditive P limit) {l l' : Lanes} {m n : ℕ} (weighs : l.Weighs P m)
    (weighs' : l'.Weighs P n) (bound : m + n ≤ limit) :
    Lanes.Weighs P ⟨l.a + l'.a, l.b + l'.b, l.c + l'.c, l.d + l'.d, l.e + l'.e, l.f + l'.f, l.g + l'.g,
      l.h + l'.h⟩ (m + n) := by
  obtain ⟨a, b, c, d, e, f, g, h, ha, hb, hc, hd, he, hf, hg, hh, rfl⟩ := weighs
  obtain ⟨a', b', c', d', e', f', g', h', ha', hb', hc', hd', he', hf', hg', hh', rfl⟩ := weighs'
  exact ⟨_, _, _, _, _, _, _, _, additive.add ha ha' (by omega), additive.add hb hb' (by omega),
    additive.add hc hc' (by omega), additive.add hd hd' (by omega), additive.add he he' (by omega),
    additive.add hf hf' (by omega), additive.add hg hg' (by omega), additive.add hh hh' (by omega), by omega⟩

/-- The first eight elements of a sample are accumulators themselves. -/
theorem exists_lanes {x₁ x₂ x₃ x₄ x₅ x₆ x₇ x₈ : Float} {rest : List Float}
    (each : List.Forall₂ P (x₁ :: x₂ :: x₃ :: x₄ :: x₅ :: x₆ :: x₇ :: x₈ :: rest) ws) :
    ∃ m ns, Lanes.Weighs P ⟨x₁, x₂, x₃, x₄, x₅, x₆, x₇, x₈⟩ m ∧ List.Forall₂ P rest ns ∧
      ws.sum = m + ns.sum := by
  simp only [List.forall₂_cons_left_iff] at each
  obtain ⟨n₁, _, h₁, ⟨n₂, _, h₂, ⟨n₃, _, h₃, ⟨n₄, _, h₄, ⟨n₅, _, h₅, ⟨n₆, _, h₆, ⟨n₇, _, h₇, ⟨n₈, ns, h₈,
    others, rfl⟩, rfl⟩, rfl⟩, rfl⟩, rfl⟩, rfl⟩, rfl⟩, rfl⟩ := each
  refine ⟨_, ns, ⟨n₁, n₂, n₃, n₄, n₅, n₆, n₇, n₈, h₁, h₂, h₃, h₄, h₅, h₆, h₇, h₈, rfl⟩, others, ?_⟩
  simp only [List.sum_cons]
  omega

theorem lanesSum (additive : IsAdditive P limit) (l : Lanes) (xs : List Float) {ws : List ℕ}
    (each : List.Forall₂ P xs ws) {m : ℕ} (weighs : l.Weighs P m) (bound : m + ws.sum ≤ limit) :
    P (l.sum xs) (m + ws.sum) := by
  fun_induction Lanes.sum l xs generalizing ws m with
  | case1 l x₁ x₂ x₃ x₄ x₅ x₆ x₇ x₈ rest ih =>
    obtain ⟨n, ns, first, others, parts⟩ := exists_lanes each
    rw [parts, ← Nat.add_assoc] at bound ⊢
    have lanes := additive.lanesAdd weighs first (by omega)
    exact ih others lanes bound
  | case2 l rest short => exact additive.sumFrom each (additive.lanesTotal weighs (by omega)) bound

theorem blockSum (additive : IsAdditive P limit) (each : List.Forall₂ P xs ws) (bound : ws.sum ≤ limit) :
    P (blockSum xs) ws.sum := by
  unfold Mean.blockSum
  split
  · obtain ⟨n, ns, first, others, parts⟩ := exists_lanes each
    rw [parts] at bound ⊢
    exact additive.lanesSum _ _ others first bound
  · have sum := additive.sumFrom each additive.negZero (by omega)
    rwa [Nat.zero_add] at sum

theorem pairwise (additive : IsAdditive P limit) (levels : ℕ) (each : List.Forall₂ P xs ws)
    (bound : ws.sum ≤ limit) : P (pairwise levels xs) ws.sum := by
  induction levels generalizing xs ws with
  | zero => exact additive.blockSum each bound
  | succ levels ih =>
    rw [Mean.pairwise]
    dsimp only
    split
    · exact additive.blockSum each bound
    · generalize xs.length / 2 - xs.length / 2 % 8 = half
      have parts := List.sum_take_add_sum_drop ws half
      have sum := additive.add (ih (List.forall₂_take half each) (by omega))
        (ih (List.forall₂_drop half each) (by omega)) (by omega)
      rwa [parts] at sum

/-- The sum of a sample has the weights of the sample, whatever its order. -/
theorem sum (additive : IsAdditive P limit) (each : List.Forall₂ P xs ws) (bound : ws.sum ≤ limit) :
    P (sum xs) ws.sum := by
  have total := additive.add additive.zero (additive.pairwise xs.length each bound) (by omega)
  rwa [Nat.zero_add] at total

end IsAdditive

/-! ## §2 Whole Numbers -/

/-- The `Float` is a natural number. -/
def IsNat (x : Float) (n : ℕ) : Prop := exactValue? x = some (.ofInt n)

theorem isNat_zero {x : Float} (zero : exactValue? x = some (.units 0)) : IsNat x 0 := by
  rw [IsNat, Nat.cast_zero, Exact.ofInt_zero, zero]

theorem isNat_of_roundsTo {x : Float} {n : ℕ} (small : n < 2 ^ 53)
    (rounds : RoundsTo ((n * 2 ^ 1074 : ℤ) : ℚ) x) : IsNat x n := by
  refine rounds.exactValue?_eq (onGrid_scaled ((Int.natAbs_natCast n).trans_lt small) _) ?_
  rw [natAbs_scaled, Int.natAbs_natCast]
  exact scaled_lt_ceiling small (by omega)

theorem isNat_ofInt {n : ℕ} (small : n < 2 ^ 53) : IsNat (Binary.ofInt n) n := by
  refine isNat_of_roundsTo small ?_
  rw [Int.cast_mul, Int.cast_pow, Int.cast_ofNat]
  exact roundsTo_ofInt n

/-- Whole numbers that need no more than 53 bits are added exactly. -/
theorem isAdditive_isNat : IsAdditive IsNat (2 ^ 53 - 1) where
  zero := isNat_zero (by rfl)
  negZero := isNat_zero (by rfl)
  add := by
    intro x y m n natX natY bound
    have rounds := roundsTo_add natX natY
    rw [← Int.cast_add, ← add_mul, ← Nat.cast_add] at rounds
    exact isNat_of_roundsTo (by omega) rounds

theorem toFloat_toUInt64 {n : ℕ} (fits : n < 2 ^ 64) : n.toUInt64.toFloat = Binary.ofInt n := by
  have kept : n.toUInt64.toNat = n := UInt64.toNat_ofNat_of_lt' fits
  change Float.ofModel (.pack (.ofInt .binary64 (n.toUInt64.toNat : ℕ))) =
    Float.ofModel (.pack (.ofInt .binary64 n))
  rw [kept]

/-- A quotient is above one half after rounding only if it is so before, for the next number on the grid is
nearer than any quotient with a small divisor. -/
theorem half_lt_iff_of_isNearest {k n j : ℕ} {r : ℤ} (pos : 0 < n) (few : n < 2 ^ 53)
    (nearest : IsNearest (k * 2 ^ 53 / n * 2 ^ j) r) : 2 ^ 52 * 2 ^ j < r ↔ n < 2 * k := by
  have size : (0 : ℚ) < n := by exact_mod_cast pos
  have unit : (0 : ℚ) < 2 ^ j := by positivity
  constructor
  · -- a quotient that is at most one half is not rounded beyond it
    intro above
    by_contra most
    have ratio : (k : ℚ) * 2 ^ 53 / n ≤ 2 ^ 52 := by
      have few : (2 * k : ℚ) ≤ n := by exact_mod_cast not_lt.1 most
      rw [div_le_iff₀ size]
      linarith
    have below := nearest.le (b := 2 ^ 52 * 2 ^ j) (onGrid_scaled (n := 2 ^ 52) (by norm_num) j) (by
      push_cast
      exact mul_le_mul_of_nonneg_right ratio unit.le)
    exact absurd above (not_lt.2 below)
  · -- one that is greater is so by more than half a step of the grid
    intro most
    have ratio : (2 ^ 52 : ℚ) + 1 / 2 < k * 2 ^ 53 / n := by
      have many : (n + 1 : ℚ) ≤ 2 * k := by exact_mod_cast most
      have small : (n : ℚ) < 2 ^ 53 := by exact_mod_cast few
      rw [lt_div_iff₀ size]
      linarith
    refine nearest.lt_of_half (onGrid_scaled (n := 2 ^ 52 + 1) (by norm_num) j) ?_ ?_
    · have : (0 : ℤ) < 2 ^ j := by positivity
      linarith
    · have scaled := mul_lt_mul_of_pos_right ratio unit
      push_cast
      linarith

/-- The mean of natural numbers exceeds one half when twice their sum exceeds how many there are. -/
theorem half_lt_mean_iff {xs : List Float} {ws : List ℕ} (each : List.Forall₂ IsNat xs ws)
    (nonempty : 0 < xs.length) (few : xs.length < 2 ^ 53) (sum : ws.sum ≤ xs.length) :
    0.5 < mean xs ↔ xs.length < 2 * ws.sum := by
  have total : IsNat (Mean.sum xs) ws.sum := isAdditive_isNat.sum each (by omega)
  have count : IsNat xs.length.toUInt64.toFloat xs.length := by
    rw [toFloat_toUInt64 (by omega)]
    exact isNat_ofInt few
  have nonzero : (xs.length : ℤ) ≠ 0 := by omega
  have half : exactValue? 0.5 = some (.units (2 ^ 52 * 2 ^ 1021)) := by rfl
  have inRange : ((2 : ℤ) ^ 52 * 2 ^ 1021).natAbs < ceiling := by
    rw [natAbs_scaled]
    exact scaled_lt_ceiling (by norm_num) (by omega)
  obtain ⟨r, nearest, value⟩ := roundsTo_div total count
    (mul_ne_zero nonzero (pow_ne_zero _ two_ne_zero))
  -- the mean and one half are written in the same steps
  have amount : ((ws.sum * 2 ^ 1074 : ℤ) : ℚ) * 2 ^ 1074 / ((xs.length * 2 ^ 1074 : ℤ) : ℚ) =
      ws.sum * 2 ^ 53 / xs.length * 2 ^ 1021 := by
    have unit : (2 : ℚ) ^ 1021 ≠ 0 := pow_ne_zero _ two_ne_zero
    rw [Int.cast_mul, Int.cast_mul, Int.cast_pow, Int.cast_ofNat, Int.cast_natCast, Int.cast_natCast,
      show (2 : ℚ) ^ 1074 = 2 ^ 53 * 2 ^ 1021 from pow_add 2 53 1021]
    generalize (2 : ℚ) ^ 1021 = w at unit
    field_simp
  rw [amount] at nearest
  change exactValue? (mean xs) = _ at value
  rw [lt_iff_exact half value, units_lt_packedValue_iff inRange,
    half_lt_iff_of_isNearest nonempty few nearest]

/-! ## §3 Bounded Samples -/

/-- The `Float` is at most `n` times `2 ^ p` units away from zero. -/
def IsBounded (p : ℕ) (x : Float) (n : ℕ) : Prop :=
  ∃ a : ℤ, exactValue? x = some (.units a) ∧ a.natAbs ≤ n * 2 ^ p

/-- Sums stay within the multiples of a bound, as long as these are finite. -/
theorem isAdditive_isBounded {p limit : ℕ} (few : limit < 2 ^ 53) (room : limit * 2 ^ p < ceiling) :
    IsAdditive (IsBounded p) limit where
  zero := ⟨0, by rfl, by simp⟩
  negZero := ⟨0, by rfl, by simp⟩
  add := by
    rintro x y m n ⟨a, valueX, boundX⟩ ⟨b, valueY, boundY⟩ within
    have onGrid : OnGrid ((m + n : ℕ) * 2 ^ p : ℕ) := by
      exact_mod_cast onGrid_scaled (n := (m + n : ℕ)) (by omega) p
    have bound : |(a + b : ℚ)| ≤ ((m + n) * 2 ^ p : ℕ) := by
      rw [← Int.cast_add, ← Int.cast_abs, ← Nat.cast_natAbs, Nat.cast_le, Nat.add_mul]
      exact (Int.natAbs_add_le a b).trans (Nat.add_le_add boundX boundY)
    exact (roundsTo_add valueX valueY).exists_units onGrid
      ((Nat.mul_le_mul_right _ within).trans_lt room) bound

/-- The sum of a sample of bounded numbers is finite, if there are not too many of them. -/
theorem isFinite_sum {xs : List Float} {p : ℕ} (bounded : ∀ x ∈ xs, IsBounded p x 1)
    (few : xs.length < 2 ^ 53) (room : xs.length * 2 ^ p < ceiling) : (sum xs).isFinite = true := by
  have each : List.Forall₂ (IsBounded p) xs (xs.map fun _ => 1) :=
    List.forall₂_map_right_iff.2 (List.forall₂_same.2 bounded)
  have total : (xs.map fun _ => 1).sum = xs.length := by simp
  obtain ⟨a, value, -⟩ := (isAdditive_isBounded few room).sum each total.le
  exact isFinite_iff.2 ⟨a, value⟩

/-- A count is rounded, if it has to be, to something finite that is not below one. -/
theorem exists_count {n j : ℕ} {x : Float} (rounds : RoundsTo ((n : ℤ) * 2 ^ j) x) (pos : 0 < n)
    (few : n < 2 ^ 63) (low : j ≤ 1982) : ∃ c, exactValue? x = some (.units c) ∧ 2 ^ j ≤ c := by
  obtain ⟨r, nearest, value⟩ := rounds
  have unit : (0 : ℚ) < 2 ^ j := by positivity
  have above := nearest.ge (onGrid_scaled (n := 1) (by norm_num) j) (by
    push_cast
    exact mul_le_mul_of_nonneg_right (by exact_mod_cast pos) unit.le)
  have below := nearest.le (onGrid_scaled (n := 1) (by norm_num) (63 + j)) (by
    push_cast
    rw [one_mul, pow_add]
    exact mul_le_mul_of_nonneg_right (by exact_mod_cast few.le) unit.le)
  rw [one_mul] at above below
  lift r to ℕ using le_trans (by positivity) above
  have inRange : r < ceiling := by
    refine lt_of_le_of_lt ?_ (scaled_lt_ceiling (m := 1) (by norm_num) (show 63 + j ≤ 2045 by omega))
    rw [one_mul]
    exact_mod_cast below
  exact ⟨r, by rw [value, packedValue_of_lt (by simpa using inRange)], above⟩

theorem abs_div_le_natAbs {a c : ℤ} {j : ℕ} (least : 2 ^ j ≤ c) : |(a * 2 ^ j / c : ℚ)| ≤ a.natAbs := by
  have unit : (2 : ℚ) ^ j ≤ c := by exact_mod_cast least
  have divisor : (0 : ℚ) < c := lt_of_lt_of_le (by positivity) unit
  rw [abs_div, abs_mul, abs_of_pos divisor, abs_of_pos (show (0 : ℚ) < 2 ^ j by positivity),
    div_le_iff₀ divisor, Nat.cast_natAbs, Int.cast_abs]
  exact mul_le_mul_of_nonneg_left unit (abs_nonneg _)

/-- The mean is finite where the sum is: the count is at least one. -/
theorem isFinite_mean {xs : List Float} (finite : (sum xs).isFinite = true) (nonempty : 0 < xs.length)
    (few : xs.length < 2 ^ 63) : (mean xs).isFinite = true := by
  obtain ⟨a, total⟩ := isFinite_iff.1 finite
  obtain ⟨⟨m, j, fits, size⟩, inRange⟩ := onGrid_of_exactValue? total
  have rounded := roundsTo_ofInt xs.length
  rw [← toFloat_toUInt64 (by omega)] at rounded
  obtain ⟨c, count, least⟩ := exists_count rounded nonempty few (by norm_num)
  have divisor : c ≠ 0 := ((pow_pos two_pos _).trans_le least).ne'
  obtain ⟨r, value, -⟩ := (roundsTo_div total count divisor).exists_units ⟨m, j, fits, size⟩ inRange
    (abs_div_le_natAbs least)
  exact isFinite_iff.2 ⟨r, value⟩

end TickCircuit.Mean

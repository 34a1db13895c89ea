import Mathlib
import TickCircuit.Proofs.Number.Rounding

/-!
# Rounding to the Nearest `Float`

Finite `Float`s are whole numbers of units that have at most 53 bits before their trailing zeros; these
numbers are the grid. An operation on `Float`s works on an extended mantissa, which keeps two bits of what
was shifted out, rounds it and packs the outcome. What comes of this is a number on the grid than which
none is nearer to the exact result, and an infinity if that number lies beyond the range
(`roundsTo_roundWithAccuracy`). Nothing else about rounding is needed: what lies between two numbers on the
grid is rounded to something between them, what is on the grid is kept, and rounding is monotone.
-/

namespace TickCircuit.Binary

open Float.Model Float.Model.UnpackedFloat

/-! ## §1 The Grid -/

/-- A whole number of units that 53 bits and an exponent can hold. -/
def OnGrid (b : ℤ) : Prop := ∃ m j : ℕ, m < 2 ^ 53 ∧ b.natAbs = m * 2 ^ j

theorem natAbs_scaled (n : ℤ) (j : ℕ) : (n * 2 ^ j).natAbs = n.natAbs * 2 ^ j := by
  rw [Int.natAbs_mul, Int.natAbs_pow]
  rfl

theorem onGrid_scaled {n : ℤ} (small : n.natAbs < 2 ^ 53) (j : ℕ) : OnGrid (n * 2 ^ j) :=
  ⟨n.natAbs, j, small, natAbs_scaled n j⟩

theorem onGrid_zero : OnGrid 0 := ⟨0, 0, by norm_num, rfl⟩

/-- A carry into a 54th bit is made up for by the exponent. -/
theorem onGrid_of_le {n : ℕ} (bound : n ≤ 2 ^ 53) (j : ℕ) : OnGrid (n * 2 ^ j) := by
  rcases Nat.lt_or_ge n (2 ^ 53) with fits | carried
  · exact onGrid_scaled (by omega) j
  · refine ⟨2 ^ 52, j + 1, by norm_num, ?_⟩
    rw [natAbs_scaled, Int.natAbs_natCast, le_antisymm bound carried, pow_succ']
    ring

theorem OnGrid.neg {b : ℤ} (onGrid : OnGrid b) : OnGrid (-b) := by
  obtain ⟨m, j, fits, size⟩ := onGrid
  exact ⟨m, j, fits, by rw [Int.natAbs_neg, size]⟩

/-- Nothing on the grid is nearer to `u` than `r`. -/
structure IsNearest (u : ℚ) (r : ℤ) : Prop where
  onGrid : OnGrid r
  closest : ∀ b, OnGrid b → |(r : ℚ) - u| ≤ |(b : ℚ) - u|

namespace IsNearest

variable {u u' : ℚ} {r r' b : ℤ}

theorem neg (nearest : IsNearest u r) : IsNearest (-u) (-r) := by
  refine ⟨nearest.onGrid.neg, fun b onGrid => ?_⟩
  have mirror (c : ℤ) : |((-c : ℤ) : ℚ) - u| = |(c : ℚ) - -u| := by
    rw [← abs_neg, show -(((-c : ℤ) : ℚ) - u) = (c : ℚ) - -u by push_cast; ring]
  rw [← mirror, ← mirror, neg_neg]
  exact nearest.closest (-b) onGrid.neg

theorem self (onGrid : OnGrid b) : IsNearest b b := by
  refine ⟨onGrid, fun c _ => ?_⟩
  rw [sub_self, abs_zero]
  exact abs_nonneg _

/-- Rounding does not go beyond a number on the grid. -/
theorem le (nearest : IsNearest u r) (onGrid : OnGrid b) (above : u ≤ b) : r ≤ b := by
  by_contra beyond
  have further : (b : ℚ) < r := by exact_mod_cast not_le.1 beyond
  have closer := nearest.closest b onGrid
  rw [abs_of_nonneg (by linarith), abs_of_nonneg (by linarith)] at closer
  linarith

theorem ge (nearest : IsNearest u r) (onGrid : OnGrid b) (below : (b : ℚ) ≤ u) : b ≤ r := by
  by_contra beyond
  have further : (r : ℚ) < b := by exact_mod_cast not_le.1 beyond
  have closer := nearest.closest b onGrid
  rw [abs_of_nonpos (by linarith), abs_of_nonpos (by linarith)] at closer
  linarith

/-- What is on the grid is not rounded. -/
theorem eq (nearest : IsNearest b r) (onGrid : OnGrid b) : r = b :=
  le_antisymm (nearest.le onGrid le_rfl) (nearest.ge onGrid le_rfl)

/-- What is more than half way to a number on the grid is not rounded back. -/
theorem lt_of_half (nearest : IsNearest u r) (onGrid : OnGrid b) {c : ℤ} (below : c < b)
    (beyond : (c + b : ℚ) / 2 < u) : c < r := by
  by_contra back
  have low : (r : ℚ) ≤ c := by exact_mod_cast not_lt.1 back
  have apart : (c : ℚ) < b := by exact_mod_cast below
  have closer := nearest.closest b onGrid
  rw [abs_of_neg (show (r : ℚ) - u < 0 by linarith)] at closer
  rcases abs_cases ((b : ℚ) - u) with ⟨size, -⟩ | ⟨size, -⟩ <;> linarith

/-- Rounding is monotone. -/
theorem mono (nearest : IsNearest u r) (nearest' : IsNearest u' r') (less : u < u') : r ≤ r' := by
  by_contra crossed
  have further : (r' : ℚ) < r := by exact_mod_cast not_le.1 crossed
  -- `u` is at least half way to `r`, and `u'` at most half way to it
  have first := nearest.closest r' nearest'.onGrid
  have second := nearest'.closest r nearest.onGrid
  have upper : (r' + r : ℚ) / 2 ≤ u := by
    by_contra low
    rw [abs_of_pos (show (0 : ℚ) < r - u by linarith)] at first
    rcases abs_cases ((r' : ℚ) - u) with ⟨size, -⟩ | ⟨size, -⟩ <;> linarith
  have lower : u' ≤ (r' + r : ℚ) / 2 := by
    by_contra high
    rw [abs_of_neg (show (r' : ℚ) - u' < 0 by linarith)] at second
    rcases abs_cases ((r : ℚ) - u') with ⟨size, -⟩ | ⟨size, -⟩ <;> linarith
  linarith

end IsNearest

/-! ## §2 Extended Mantissas -/

/-- The amount that an extended mantissa stands for, as far as its last two bits tell. -/
def Holds (em : ExtendedMantissa) (t : ℚ) : Prop :=
  match em.roundBit, em.stickyBit with
  | false, false => t = em.mantissa
  | false, true => (em.mantissa : ℚ) < t ∧ t < em.mantissa + 1 / 2
  | true, false => t = em.mantissa + 1 / 2
  | true, true => (em.mantissa : ℚ) + 1 / 2 < t ∧ t < em.mantissa + 1

namespace Holds

variable {em : ExtendedMantissa} {t : ℚ}

theorem mantissa_le (holds : Holds em t) : (em.mantissa : ℚ) ≤ t := by
  obtain ⟨m, round, sticky⟩ := em
  cases round <;> cases sticky <;> simp only [Holds] at holds <;> linarith

theorem shiftRightOne (holds : Holds em t) : Holds em.shiftRightOne (t / 2) := by
  obtain ⟨m, round, sticky⟩ := em
  have parts : (m : ℚ) = ((m % 2 : ℕ) : ℚ) + 2 * ((m / 2 : ℕ) : ℚ) := by
    exact_mod_cast (Nat.mod_add_div m 2).symm
  unfold ExtendedMantissa.shiftRightOne
  rcases Nat.mod_two_eq_zero_or_one m with even | odd
  · rw [even] at parts ⊢
    cases round <;> cases sticky <;> simp [Holds] at holds ⊢ <;>
      first | linarith | constructor <;> linarith
  · rw [odd] at parts ⊢
    cases round <;> cases sticky <;> simp [Holds] at holds ⊢ <;>
      first | linarith | constructor <;> linarith

theorem shiftRight (holds : Holds em t) (k : ℕ) : Holds (em >>> k) (t / 2 ^ k) := by
  induction k with
  | zero =>
    rw [pow_zero, div_one]
    exact holds
  | succ k ih =>
    rw [pow_succ, ← div_div]
    exact ih.shiftRightOne

/-- Rounding is at most one half off. -/
theorem abs_roundedMantissa_sub_le (holds : Holds em t) : |(em.roundedMantissa : ℚ) - t| ≤ 1 / 2 := by
  obtain ⟨m, round, sticky⟩ := em
  have parity := Nat.mod_lt m two_pos
  have small : ((m % 2 : ℕ) : ℚ) ≤ 1 := by exact_mod_cast Nat.le_of_lt_succ parity
  have large : (0 : ℚ) ≤ ((m % 2 : ℕ) : ℚ) := Nat.cast_nonneg _
  rw [abs_le]
  cases round <;> cases sticky <;>
    simp only [Holds, ExtendedMantissa.roundedMantissa, ExtendedMantissa.accuracy,
      Accuracy.roundToNearestEven] at holds ⊢ <;> push_cast <;> constructor <;> linarith

/-- So no whole number is nearer. -/
theorem abs_roundedMantissa_sub_le_of_int (holds : Holds em t) (c : ℤ) :
    |(em.roundedMantissa : ℚ) - t| ≤ |(c : ℚ) - t| := by
  by_cases same : c = em.roundedMantissa
  · rw [same]
    rfl
  · have half := holds.abs_roundedMantissa_sub_le
    have apart : (1 : ℚ) ≤ |(c : ℚ) - em.roundedMantissa| := by
      exact_mod_cast Int.one_le_abs (sub_ne_zero.2 same)
    have triangle := abs_sub_le (c : ℚ) t em.roundedMantissa
    rw [abs_sub_comm t] at triangle
    linarith

/-- In steps of `2 ^ j` units a number on the grid is whole, or it lies below the least full mantissa. So none
is nearer. -/
theorem abs_roundedMantissa_sub_le_of_onGrid (holds : Holds em t) {j : ℕ}
    (full : 0 < j → 2 ^ 52 ≤ em.mantissa) {b : ℤ} (onGrid : OnGrid b) :
    |(em.roundedMantissa : ℚ) - t| ≤ |(b : ℚ) / 2 ^ j - t| := by
  obtain ⟨m', j', fits, size⟩ := onGrid
  -- a number on a finer grid is below the mantissa, and one on a coarser grid is whole in these steps
  rcases Nat.lt_or_ge j' j with finer | coarser
  · have least : (2 : ℚ) ^ 52 ≤ t := by
      refine le_trans ?_ holds.mantissa_le
      exact_mod_cast full (by omega)
    have small : (b : ℚ) / 2 ^ j ≤ 2 ^ 52 := by
      rw [div_le_iff₀ (by positivity)]
      have bound : b.natAbs ≤ 2 ^ 52 * 2 ^ j := by
        rw [size, ← pow_add]
        refine (Nat.mul_le_mul_right _ fits.le).trans ?_
        rw [← pow_add]
        exact Nat.pow_le_pow_right two_pos (by omega)
      exact_mod_cast Int.le_natAbs.trans (Int.ofNat_le.2 bound)
    refine (holds.abs_roundedMantissa_sub_le_of_int (2 ^ 52)).trans ?_
    push_cast
    rw [abs_of_nonpos (by linarith), abs_of_nonpos (by linarith)]
    linarith
  · obtain ⟨c, rfl⟩ : (2 : ℤ) ^ j ∣ b := by
      rw [← Int.natAbs_dvd_natAbs, size, Int.natAbs_pow]
      exact Dvd.dvd.mul_left (pow_dvd_pow 2 coarser) m'
    have whole : ((2 ^ j * c : ℤ) : ℚ) / 2 ^ j = c := by
      push_cast
      rw [mul_div_cancel_left₀ _ (by positivity)]
    rw [whole]
    exact holds.abs_roundedMantissa_sub_le_of_int c

end Holds

/-! ## §3 Rounding -/

section Rounding

variable {m : ℕ} {e : ℤ} {a : Accuracy} {t : ℚ}

theorem shiftToTargetExponent_eq (m : ℕ) (e : ℤ) (a : Accuracy) :
    shiftToTargetExponent .binary64 m e a =
      (ExtendedMantissa.ofMantissaAndAccuracy m a >>>
          (max ((m.log2 : ℤ) + e - 52) (-1074) - e).toNat,
        max e (max (m.log2 + e - 52) (-1074))) := by
  refine Prod.ext ?_ ?_
  · unfold shiftToTargetExponent shiftToExponent
    dsimp only
    rw [targetExponent_eq]
  · unfold shiftToTargetExponent shiftToExponent
    dsimp only
    rw [targetExponent_eq]
    omega

theorem mantissa_ofMantissaAndAccuracy (m : ℕ) (a : Accuracy) :
    (ExtendedMantissa.ofMantissaAndAccuracy m a).mantissa = m := by
  cases a with
  | exact => rfl
  | inexact side => cases side <;> rfl

/-- The extended mantissa that a magnitude is shifted to, and its exponent. -/
def shifted (m : ℕ) (e : ℤ) (a : Accuracy) : ExtendedMantissa :=
  ExtendedMantissa.ofMantissaAndAccuracy m a >>> (max ((m.log2 : ℤ) + e - 52) (-1074) - e).toNat

def shiftedExponent (m : ℕ) (e : ℤ) : ℤ := max ((m.log2 : ℤ) + e - 52) (-1074)

theorem mantissa_shifted (m : ℕ) (e : ℤ) (a : Accuracy) :
    (shifted m e a).mantissa = m / 2 ^ (shiftedExponent m e - e).toNat := by
  rw [shifted, mantissa_shiftRight, mantissa_ofMantissaAndAccuracy, shiftedExponent]

theorem roundedMantissa_shifted_le (m : ℕ) (e : ℤ) (a : Accuracy) :
    (shifted m e a).roundedMantissa ≤ 2 ^ 53 := by
  have carry := (roundedMantissa_bounds (shifted m e a)).2
  have width : m.log2 + 1 ≤ (shiftedExponent m e - e).toNat + 53 := by
    unfold shiftedExponent
    omega
  have fits : (shifted m e a).mantissa < 2 ^ 53 := by
    rw [mantissa_shifted]
    refine Nat.div_lt_of_lt_mul ?_
    rw [← pow_add]
    exact Nat.lt_log2_self.trans_le (Nat.pow_le_pow_right two_pos width)
  omega

/-- Above the least exponent the shift leaves 53 bits. -/
theorem full_of_shifted (low : e ≤ shiftedExponent m e) (above : -1074 < shiftedExponent m e) :
    2 ^ 52 ≤ (shifted m e a).mantissa := by
  have nonzero : m ≠ 0 := by
    rintro rfl
    unfold shiftedExponent at low above
    rw [Nat.log2_zero] at low above
    omega
  rw [mantissa_shifted, Nat.le_div_iff_mul_le (by positivity), ← pow_add]
  refine (Nat.pow_le_pow_right two_pos ?_).trans (Nat.log2_self_le nonzero)
  unfold shiftedExponent at low above ⊢
  omega

/-- Rounding comes to the rounded mantissa, carried over if it takes a 54th bit. -/
theorem roundWithAccuracy_eq (s : Sign) (low : e ≤ shiftedExponent m e) :
    roundWithAccuracy .binary64 s m e a =
      if zero : (shifted m e a).roundedMantissa = 0 then .zero s
      else if (shifted m e a).roundedMantissa < 2 ^ 53 then
        .finite s (shifted m e a).roundedMantissa (shiftedExponent m e) (Nat.pos_of_ne_zero zero)
      else .finite s (2 ^ 52) (shiftedExponent m e + 1) (by positivity) := by
  have bound := roundedMantissa_shifted_le m e a
  have least : -1074 ≤ shiftedExponent m e := le_max_right _ _
  have first : shiftToTargetExponent .binary64 m e a = (shifted m e a, shiftedExponent m e) := by
    rw [shiftToTargetExponent_eq]
    exact Prod.ext rfl (max_eq_right low)
  unfold roundWithAccuracy
  rw [first]
  dsimp only
  generalize (shifted m e a).roundedMantissa = n at bound ⊢
  generalize shiftedExponent m e = e₁ at least ⊢
  rcases Nat.lt_or_ge n (2 ^ 53) with fits | carried
  · -- there is nothing left to shift
    have narrow : n.log2 ≤ 52 := by
      by_cases zero : n = 0
      · rw [zero]
        decide
      · exact Nat.le_of_lt_succ ((Nat.log2_lt zero).2 fits)
    have second : shiftToTargetExponent .binary64 n e₁ .exact = (⟨n, false, false⟩, e₁) := by
      rw [shiftToTargetExponent_eq, show (max ((n.log2 : ℤ) + e₁ - 52) (-1074) - e₁).toNat = 0 by omega]
      exact Prod.ext rfl (max_eq_left (by omega))
    simp only [second, fits, if_true]
  · -- the carry leaves one bit to shift out, and it is zero
    have top : n = 2 ^ 52 * 2 ^ 1 := by omega
    have second := shiftToTargetExponent_scaled le_rfl (by norm_num) (show -1074 ≤ e₁ + 1 by omega) 1
    rw [Nat.cast_one, add_sub_cancel_right] at second
    subst top
    simp only [second]
    rfl

theorem canonical_of_shifted (low : e ≤ shiftedExponent m e)
    (fits : (shifted m e a).roundedMantissa < 2 ^ 53) :
    Canonical (shifted m e a).roundedMantissa (shiftedExponent m e) :=
  ⟨le_max_right _ _, fits, fun above =>
    (full_of_shifted low above).trans (roundedMantissa_bounds _).1⟩

end Rounding

/-! ## §4 Packing -/

section Packing

variable {m : ℕ} {e : ℤ}

theorem exponentBias_eq : ((Format.binary64.exponentBias : Nat) : Int) = 1023 := rfl

theorem mantissaWidth_eq : ((Format.binary64.mantissaBitsWithoutImplicit : Nat) : Int) = 52 := rfl

/-- Of a full mantissa the first bit is not written, and the exponent is neither all zeros nor all ones. -/
theorem unpack_packComponents_of_full (s : Sign) (full : 2 ^ 52 ≤ m) (fits : m < 2 ^ 53) {n : ℕ}
    (above : 0 < n) (below : n < 2047) (pos : 0 < m) :
    UnpackedFloat.unpack .binary64 (packComponents .binary64 s (.ofNat 11 n) (.ofNat 52 m)) =
      .finite s m (n - 1075) pos := by
  have exponent : (BitVec.ofNat 11 n).toNat = n := by
    rw [BitVec.toNat_ofNat, Nat.mod_eq_of_lt (by omega)]
  have notOnes : BitVec.ofNat 11 n ≠ -1#_ := fun ones => by
    have bits := congrArg BitVec.toNat ones
    rw [exponent] at bits
    change _ = 2 ^ 11 - 1 at bits
    omega
  have notZeros : BitVec.ofNat 11 n ≠ 0#_ := fun zeros => by
    have bits := congrArg BitVec.toNat zeros
    rw [exponent] at bits
    change _ = 0 at bits
    omega
  -- the bit that is not written stands in front again
  have mantissa : (1#1 ++ BitVec.ofNat 52 m).toNat = m := by
    have stored : (BitVec.ofNat 52 m).toNat = m % 2 ^ 52 := BitVec.toNat_ofNat m 52
    rw [BitVec.toNat_append, ← Nat.shiftLeft_add_eq_or_of_lt (BitVec.isLt _), stored, Nat.shiftLeft_eq]
    change 1 * 2 ^ 52 + _ = _
    omega
  unfold UnpackedFloat.unpack
  simp only [unpackExponent_packComponents, unpackMantissa_packComponents, unpackSign_packComponents,
    Sign.ofBitVec_toBitVec]
  rw [if_neg notOnes, if_neg notZeros]
  simp only [mantissa, exponent, exponentBias_eq]
  congr 1

/-- A short mantissa is written as it is, with the least exponent. -/
theorem unpack_packComponents_of_short (s : Sign) (short : m < 2 ^ 52) (pos : 0 < m) :
    UnpackedFloat.unpack .binary64 (packComponents .binary64 s 0#_ (.ofNat 52 m)) =
      .finite s m (-1074) pos := by
  have mantissa : (BitVec.ofNat 52 m).toNat = m := by
    rw [BitVec.toNat_ofNat, Nat.mod_eq_of_lt short]
  have nonzero : BitVec.ofNat 52 m ≠ 0#_ := fun zeros => by
    have bits := congrArg BitVec.toNat zeros
    rw [mantissa] at bits
    exact pos.ne' bits
  unfold UnpackedFloat.unpack
  simp only [unpackExponent_packComponents, unpackMantissa_packComponents, unpackSign_packComponents,
    Sign.ofBitVec_toBitVec]
  rw [if_neg (by decide), if_pos trivial, dif_neg nonzero]
  simp only [mantissa, exponentBias_eq]
  rfl

/-- A canonical form within the range is kept by packing. -/
theorem unpack_pack (canonical : Canonical m e) (s : Sign) (pos : 0 < m) (within : e ≤ 971) :
    (Float.Model.pack (.finite s m e pos)).unpack = .finite s m e pos := by
  have fits := canonical.fits
  have least := canonical.least
  change UnpackedFloat.unpack .binary64 (UnpackedFloat.pack .binary64 (.finite s m e pos)) = _
  unfold UnpackedFloat.pack
  dsimp only
  rw [exponentBias_eq, mantissaWidth_eq, if_neg (show ¬ 2 ^ 11 ≤ (e + 1023 + 52).toNat + 1 by omega)]
  -- a full mantissa is written without its first bit, a short one under the least exponent
  split
  · next full =>
    change m.log2 + 1 = 53 at full
    have large : 2 ^ 52 ≤ m := (Nat.le_log2 pos.ne').1 (by omega)
    refine (unpack_packComponents_of_full s large fits (by omega) (by omega) pos).trans ?_
    congr 1
    omega
  · next short =>
    change ¬ m.log2 + 1 = 53 at short
    have small : m < 2 ^ 52 := by
      by_contra large
      exact short (by rw [log2_of_full (not_lt.1 large) fits])
    have atLeast : e = -1074 := by
      by_contra above
      exact absurd (canonical.full (by omega)) (by omega)
    subst atLeast
    exact unpack_packComponents_of_short s small pos

/-- The least power of two beyond the range of finite `Float`s, in units. -/
def ceiling : ℕ := 2 ^ 2098

theorem ceiling_pos : 0 < ceiling := by
  unfold ceiling
  positivity

theorem pow_le_ceiling {k : ℕ} (small : k ≤ 2098) : 2 ^ k ≤ ceiling := by
  unfold ceiling
  exact pow_le_pow_right₀ one_le_two small

theorem ceiling_le_pow {k : ℕ} (large : 2098 ≤ k) : ceiling ≤ 2 ^ k := by
  unfold ceiling
  exact pow_le_pow_right₀ one_le_two large

theorem scaled_lt_ceiling {m j : ℕ} (fits : m < 2 ^ 53) (low : j ≤ 2045) : m * 2 ^ j < ceiling := by
  refine (Nat.mul_lt_mul_of_pos_right fits (by positivity)).trans_le ?_
  rw [← pow_add]
  exact pow_le_ceiling (by omega)

/-- The exact value of a `Float` that is packed from a number of units: beyond the range of finite ones it
is an infinity. -/
def packedValue (r : ℤ) : Exact :=
  if r.natAbs < ceiling then .units r else if r < 0 then ⊥ else ⊤

theorem packedValue_of_lt {r : ℤ} (inRange : r.natAbs < ceiling) : packedValue r = .units r :=
  if_pos inRange

theorem packedValue_zero : packedValue 0 = .units 0 := packedValue_of_lt ceiling_pos

theorem natAbs_apply (s : Sign) (m : ℕ) : (s.apply (m : ℤ)).natAbs = m := by
  cases s with
  | positive => exact Int.natAbs_natCast m
  | negative => exact (Int.natAbs_neg _).trans (Int.natAbs_natCast m)

theorem exactValue?_pack (canonical : Canonical m e) (s : Sign) (pos : 0 < m) :
    exactValue? (.ofModel (.pack (.finite s m e pos))) =
      some (packedValue (s.apply m * 2 ^ (e + 1074).toNat)) := by
  have least := canonical.least
  have size : (s.apply (m : ℤ) * 2 ^ (e + 1074).toNat).natAbs = m * 2 ^ (e + 1074).toNat := by
    rw [natAbs_scaled, natAbs_apply]
  -- above the greatest exponent both sides are the infinity of the sign
  rcases le_or_gt e 971 with within | beyond
  · have inRange := scaled_lt_ceiling canonical.fits (show (e + 1074).toNat ≤ 2045 by omega)
    rw [packedValue_of_lt (size.trans_lt inRange)]
    change exactOf (Float.Model.pack (.finite s m e pos)).unpack = _
    rw [unpack_pack canonical s pos within]
    rfl
  · have outOfRange : ceiling ≤ m * 2 ^ (e + 1074).toNat := by
      refine le_trans ?_ (Nat.mul_le_mul_right _ (canonical.full (by omega)))
      rw [← pow_add]
      exact ceiling_le_pow (by omega)
    have infinite : Float.Model.pack (.finite s m e pos) = Float.Model.pack (.infinity s) := by
      have written : 2 ^ Format.binary64.exponentBits ≤
          (e + Format.binary64.exponentBias + Format.binary64.mantissaBitsWithoutImplicit).toNat + 1 := by
        change 2 ^ 11 ≤ (e + 1023 + 52).toNat + 1
        omega
      have packed : UnpackedFloat.pack .binary64 (.finite s m e pos) =
          UnpackedFloat.pack .binary64 (.infinity s) := if_pos written
      unfold Float.Model.pack
      simp only [packed]
    have positive : (0 : ℤ) < m * 2 ^ (e + 1074).toNat := by positivity
    rw [packedValue, if_neg (not_lt.2 (outOfRange.trans_eq size.symm)), infinite]
    cases s with
    | positive =>
      rw [if_neg (show ¬ Sign.positive.apply (m : ℤ) * _ < 0 from not_lt.2 positive.le)]
      rfl
    | negative =>
      rw [if_pos (by rw [Sign.apply, neg_mul]; omega)]
      rfl

end Packing

/-! ## §5 Results -/

/-- The `Float` is what rounding makes of `u` units. -/
def RoundsTo (u : ℚ) (x : Float) : Prop :=
  ∃ r, IsNearest u r ∧ exactValue? x = some (packedValue r)

section Results

variable {m : ℕ} {e : ℤ} {a : Accuracy} {t : ℚ}

/-- No number on the grid is nearer than a rounded mantissa at its exponent. -/
theorem isNearest_shifted (low : e ≤ shiftedExponent m e)
    (holds : Holds (.ofMantissaAndAccuracy m a) t) :
    IsNearest (t * 2 ^ (e + 1074))
      ((shifted m e a).roundedMantissa * 2 ^ (shiftedExponent m e + 1074).toNat) := by
  have least : -1074 ≤ shiftedExponent m e := le_max_right _ _
  have kept : Holds (shifted m e a) (t / 2 ^ (shiftedExponent m e - e).toNat) := holds.shiftRight _
  have full : 0 < (shiftedExponent m e + 1074).toNat → 2 ^ 52 ≤ (shifted m e a).mantissa :=
    fun above => full_of_shifted low (by omega)
  have carry := roundedMantissa_shifted_le m e a
  generalize shifted m e a = em at kept full carry ⊢
  generalize amount : t / 2 ^ (shiftedExponent m e - e).toNat = t' at kept
  generalize place : (shiftedExponent m e + 1074).toNat = j at full
  -- both sides are compared in steps of the shifted exponent
  have scale : t * (2 : ℚ) ^ (e + 1074) = t' * 2 ^ j := by
    rw [← amount, div_mul_eq_mul_div, eq_div_iff (by positivity), mul_assoc, ← zpow_natCast,
      ← zpow_natCast, ← zpow_add₀ two_ne_zero, show e + 1074 +
      ((shiftedExponent m e - e).toNat : ℤ) = j by omega]
  refine ⟨onGrid_of_le carry j, fun b onGrid => ?_⟩
  have closest := kept.abs_roundedMantissa_sub_le_of_onGrid full onGrid
  have step : (0 : ℚ) < 2 ^ j := by positivity
  rw [scale]
  push_cast
  rw [← sub_mul, abs_mul, abs_of_pos step]
  calc |(em.roundedMantissa : ℚ) - t'| * 2 ^ j ≤ |(b : ℚ) / 2 ^ j - t'| * 2 ^ j :=
        mul_le_mul_of_nonneg_right closest step.le
    _ = |(b : ℚ) - t' * 2 ^ j| := by
        rw [← abs_of_pos step, ← abs_mul, abs_of_pos step, sub_mul, div_mul_cancel₀ _ step.ne']

theorem exactValue?_roundWithAccuracy (s : Sign) (low : e ≤ shiftedExponent m e) :
    exactValue? (.ofModel (.pack (roundWithAccuracy .binary64 s m e a))) =
      some (packedValue (s.apply (shifted m e a).roundedMantissa *
        2 ^ (shiftedExponent m e + 1074).toNat)) := by
  have least : -1074 ≤ shiftedExponent m e := le_max_right _ _
  rw [roundWithAccuracy_eq s low]
  split
  · next zero =>
    rw [zero]
    cases s <;> simp only [Sign.apply, Nat.cast_zero, neg_zero, zero_mul, packedValue_zero] <;> rfl
  · split
    · next fits => exact exactValue?_pack (canonical_of_shifted low fits) s _
    · next carried =>
      have top : (shifted m e a).roundedMantissa = 2 ^ 53 := by
        have := roundedMantissa_shifted_le m e a
        omega
      have canonical : Canonical (2 ^ 52) (shiftedExponent m e + 1) :=
        ⟨by omega, by norm_num, fun _ => le_rfl⟩
      rw [exactValue?_pack canonical, top, show (shiftedExponent m e + 1 + 1074).toNat =
        (shiftedExponent m e + 1074).toNat + 1 by omega]
      congr 2
      cases s <;> simp only [Sign.apply] <;> push_cast <;> ring

/-- Rounding an amount that is known as far as the last bits tell. -/
theorem roundsTo_roundWithAccuracy (s : Sign) (low : e ≤ shiftedExponent m e)
    (holds : Holds (.ofMantissaAndAccuracy m a) t) :
    RoundsTo (s.apply 1 * (t * 2 ^ (e + 1074)))
      (.ofModel (.pack (roundWithAccuracy .binary64 s m e a))) := by
  have nearest := isNearest_shifted low holds
  refine ⟨_, ?_, exactValue?_roundWithAccuracy s low⟩
  cases s with
  | positive =>
    simp only [Sign.apply, Int.cast_one, one_mul]
    exact nearest
  | negative =>
    simp only [Sign.apply, Int.cast_neg, Int.cast_one, neg_mul, one_mul]
    exact nearest.neg

end Results

end TickCircuit.Binary

import Mathlib.Order.Compare
import Mathlib.Order.WithBot
import Mathlib.Tactic
import TickCircuit.Number.Basic

/-!
# Exact Values of Numbers

The exact value of a number is a whole multiple of the smallest positive `Float`, or an infinity.
A NaN has none. Every comparison of numbers is a comparison of exact values
(`Number.compare?_eq_exact`), so equality of numbers is symmetric and transitive whatever mixture
of whole numbers and `Float`s takes part.
-/

namespace TickCircuit

open Float.Model Float.Model.UnpackedFloat

/-! ## §1 Exact Values -/

/-- A whole number of units of `2^-1074`, or an infinity. -/
abbrev Exact := WithBot (WithTop ℤ)

/-- A finite exact value. -/
def Exact.units (n : ℤ) : Exact := ((n : WithTop ℤ) : Exact)

/-- The exact value of a whole number. -/
def Exact.ofInt (n : ℤ) : Exact := units (n * 2 ^ 1074)

/-! ### Comparison along monotone maps -/

theorem compare_of_strictMono {α β : Type*} [LinearOrder α] [LinearOrder β] {f : α → β}
    (hf : StrictMono f) (a b : α) : compare (f a) (f b) = compare a b := by
  rw [← cmp_eq_compare, ← cmp_eq_compare]
  exact hf.cmp_map_eq a b

theorem compare_swap {α : Type*} [LinearOrder α] (a b : α) : (compare a b).swap = compare b a := by
  rw [← cmp_eq_compare, ← cmp_eq_compare]
  exact cmp_swap a b

/-- Finite exact values compare as their numbers of units. -/
theorem Exact.compare_units (a b : ℤ) : compare (units a) (units b) = compare a b :=
  compare_of_strictMono (f := units) (WithBot.coe_strictMono.comp WithTop.coe_strictMono) a b

theorem compare_natCast (a b : Nat) : compare (a : ℤ) (b : ℤ) = compare a b :=
  compare_of_strictMono Nat.strictMono_cast a b

theorem compare_neg (a b : ℤ) : compare (-a) (-b) = (compare a b).swap := by
  rw [compare_swap, ← cmp_eq_compare, ← cmp_eq_compare]
  exact StrictAnti.cmp_map_eq (fun _ _ h => Int.neg_lt_neg h) a b

/-- Comparison is not changed by a positive factor. -/
theorem compare_mul_right (a b : ℤ) {c : ℤ} (hc : 0 < c) :
    compare (a * c) (b * c) = compare a b :=
  compare_of_strictMono (f := (· * c)) (fun _ _ h => mul_lt_mul_of_pos_right h hc) a b

/-! ### Values of `Float`s and numbers -/

namespace Binary

/-- The exact value of an unpacked `Float`. -/
def exactOf : UnpackedFloat → Option Exact
  | .notANumber => none
  | .infinity .positive => some ⊤
  | .infinity .negative => some ⊥
  | .zero _ => some (.units 0)
  | .finite s m e _ => some (.units (s.apply m * 2 ^ (e + 1074).toNat))

theorem exactOf_zero (s : Sign) : exactOf (.zero s) = some (.units 0) := rfl

theorem exactOf_finite (s : Sign) (m : Nat) (e : Int) (pos : 0 < m) :
    exactOf (.finite s m e pos) = some (.units (s.apply m * 2 ^ (e + 1074).toNat)) := rfl

theorem exactOf_positive (m : Nat) (e : Int) (pos : 0 < m) :
    exactOf (.finite .positive m e pos) = some (.units (m * 2 ^ (e + 1074).toNat)) := rfl

theorem exactOf_negative (m : Nat) (e : Int) (pos : 0 < m) :
    exactOf (.finite .negative m e pos) = some (.units (-(m * 2 ^ (e + 1074).toNat))) := by
  rw [← neg_mul]
  rfl

/-- The exact value of a `Float`; none for a NaN. -/
def exactValue? (x : Float) : Option Exact := exactOf x.toModel.unpack

end Binary

/-- The exact value of a number; none for a NaN. -/
def Number.exactValue? : Number → Option Exact
  | .int n => some (.ofInt n)
  | .real x => Binary.exactValue? x

/-! ## §2 The Form of a Finite `Float` -/

namespace Binary

/-- A mantissa has at most 53 bits, and exactly 53 above the least exponent. -/
structure Canonical (m : Nat) (e : Int) : Prop where
  least : -1074 ≤ e
  fits : m < 2 ^ 53
  full : -1074 < e → 2 ^ 52 ≤ m

/-- Every finite `Float` unpacks to a canonical mantissa and exponent. -/
theorem canonical_of_unpack {x : Float} {s : Sign} {m : Nat} {e : Int} {pos : 0 < m}
    (h : x.toModel.unpack = .finite s m e pos) : Canonical m e := by
  have bias : ((Format.binary64.exponentBias : Nat) : Int) = 1023 := rfl
  have width : ((Format.binary64.mantissaBitsWithoutImplicit : Nat) : Int) = 52 := rfl
  have small := (@unpackMantissa .binary64 x.toModel.toBits.toBitVec).isLt
  unfold Float.Model.unpack UnpackedFloat.unpack at h
  dsimp only at h
  -- the greatest exponent is kept for infinities and NaNs
  by_cases special : @unpackExponent .binary64 x.toModel.toBits.toBitVec = -1#_
  · rw [if_pos special] at h
    by_cases infinite : @unpackMantissa .binary64 x.toModel.toBits.toBitVec = 0#_
    · rw [if_pos infinite] at h
      cases h
    · rw [if_neg infinite] at h
      cases h
  rw [if_neg special] at h
  -- the least one is kept for zeros and for mantissas without an implicit bit
  by_cases subnormal : @unpackExponent .binary64 x.toModel.toBits.toBitVec = 0#_
  · rw [if_pos subnormal] at h
    by_cases zero : @unpackMantissa .binary64 x.toModel.toBits.toBitVec = 0#_
    · rw [dif_pos zero] at h
      cases h
    · rw [dif_neg zero] at h
      cases h
      have exponent := congrArg BitVec.toNat subnormal
      simp only [BitVec.toNat_ofNat, Nat.zero_mod] at exponent
      rw [exponent, bias, width]
      exact ⟨by omega, lt_trans small (by decide), fun above => absurd above (by omega)⟩
  · rw [if_neg subnormal] at h
    cases h
    have positive : (@unpackExponent .binary64 x.toModel.toBits.toBitVec).toNat ≠ 0 :=
      fun zero => subnormal (BitVec.eq_of_toNat_eq zero)
    -- the implicit bit stands in front of the stored ones
    have mantissa : (1#1 ++ @unpackMantissa .binary64 x.toModel.toBits.toBitVec).toNat =
        2 ^ 52 + (@unpackMantissa .binary64 x.toModel.toBits.toBitVec).toNat := by
      rw [BitVec.toNat_append, ← Nat.shiftLeft_add_eq_or_of_lt small, Nat.shiftLeft_eq]
      rfl
    rw [bias, width, mantissa]
    refine ⟨by omega, ?_, fun _ => by omega⟩
    have : (@unpackMantissa .binary64 x.toModel.toBits.toBitVec).toNat < 2 ^ 52 := small
    omega

/-- Above an exponent, even the least mantissa outweighs every mantissa at it. -/
theorem Canonical.scaled_lt {m m' : Nat} {e e' : Int} (h : Canonical m e) (h' : Canonical m' e')
    (lt : e < e') : (m : ℤ) * 2 ^ (e + 1074).toNat < (m' : ℤ) * 2 ^ (e' + 1074).toNat := by
  have := h.least
  -- one step of the exponent doubles, and a full mantissa is at least half of the bound
  obtain ⟨gap, hgap⟩ : ∃ gap, (e' + 1074).toNat = gap + 1 + (e + 1074).toNat :=
    ⟨(e' + 1074).toNat - (e + 1074).toNat - 1, by omega⟩
  have double : (2 : ℤ) ≤ 2 ^ (gap + 1) := by
    rw [pow_succ]
    have one : (1 : ℤ) ≤ 2 ^ gap := one_le_pow₀ (by norm_num)
    omega
  rw [hgap, pow_add, ← mul_assoc]
  refine mul_lt_mul_of_pos_right ?_ (by positivity)
  calc (m : ℤ) < 2 ^ 53 := by exact_mod_cast h.fits
    _ = 2 ^ 52 * 2 := by norm_num
    _ ≤ m' * 2 ^ (gap + 1) :=
      mul_le_mul (by exact_mod_cast h'.full (by omega)) double (by norm_num) (by positivity)

/-- Canonical magnitudes compare first by their exponents and then by their mantissas. -/
theorem Canonical.compare_scaled {m₁ m₂ : Nat} {e₁ e₂ : Int} (h₁ : Canonical m₁ e₁)
    (h₂ : Canonical m₂ e₂) :
    compare ((m₁ : ℤ) * 2 ^ (e₁ + 1074).toNat) ((m₂ : ℤ) * 2 ^ (e₂ + 1074).toNat) =
      (compare e₁ e₂).then (compare m₁ m₂) := by
  rcases lt_trichotomy e₁ e₂ with h | h | h
  · rw [compare_lt_iff_lt.2 h, compare_lt_iff_lt.2 (h₁.scaled_lt h₂ h)]
    rfl
  · subst h
    rw [compare_mul_right _ _ (by positivity), compare_eq_iff_eq.2 rfl]
    exact compare_natCast m₁ m₂
  · rw [compare_gt_iff_gt.2 h, compare_gt_iff_gt.2 (h₂.scaled_lt h₁ h)]
    rfl

/-! ## §3 Comparison -/

section Unpacked

variable {s t : Sign} {m m' : Nat} {e e' : Int} {pos : 0 < m} {pos' : 0 < m'}

theorem magnitude_pos (pos : 0 < m) (e : Int) : (0 : ℤ) < m * 2 ^ (e + 1074).toNat := by positivity

theorem map₂_compare_units (a b : ℤ) :
    Option.map₂ compare (some (Exact.units a)) (some (Exact.units b)) = some (compare a b) := by
  rw [Option.map₂_some_some, Exact.compare_units]

theorem compare_zero_finite : (zero s).compare (finite t m e pos) =
    Option.map₂ compare (exactOf (zero s)) (exactOf (finite t m e pos)) := by
  have positive := magnitude_pos pos e
  cases t with
  | negative =>
    rw [exactOf_zero, exactOf_negative, map₂_compare_units, compare_gt_iff_gt.2 (by omega)]
    rfl
  | positive =>
    rw [exactOf_zero, exactOf_positive, map₂_compare_units, compare_lt_iff_lt.2 positive]
    rfl

theorem compare_finite_zero : (finite s m e pos).compare (zero t) =
    Option.map₂ compare (exactOf (finite s m e pos)) (exactOf (zero t)) := by
  have positive := magnitude_pos pos e
  cases s with
  | negative =>
    rw [exactOf_zero, exactOf_negative, map₂_compare_units, compare_lt_iff_lt.2 (by omega)]
    rfl
  | positive =>
    rw [exactOf_zero, exactOf_positive, map₂_compare_units, compare_gt_iff_gt.2 positive]
    rfl

/-- Only two values of one sign need the comparison of canonical forms. -/
theorem compare_finite (h : Canonical m e) (h' : Canonical m' e') :
    (finite s m e pos).compare (finite t m' e' pos') =
      Option.map₂ compare (exactOf (finite s m e pos)) (exactOf (finite t m' e' pos')) := by
  have positive := magnitude_pos pos e
  have positive' := magnitude_pos pos' e'
  cases s <;> cases t
  · rw [exactOf_negative, exactOf_negative, map₂_compare_units, compare_neg, h.compare_scaled h']
    rfl
  · rw [exactOf_negative, exactOf_positive, map₂_compare_units, compare_lt_iff_lt.2 (by omega)]
    rfl
  · rw [exactOf_positive, exactOf_negative, map₂_compare_units, compare_gt_iff_gt.2 (by omega)]
    rfl
  · rw [exactOf_positive, exactOf_positive, map₂_compare_units, h.compare_scaled h']
    rfl

end Unpacked

/-- Unpacked `Float`s compare as their exact values. -/
theorem compare_unpack (x y : Float) :
    x.toModel.unpack.compare y.toModel.unpack = Option.map₂ compare (exactValue? x) (exactValue? y) := by
  unfold exactValue?
  cases hx : x.toModel.unpack with
  | notANumber => cases y.toModel.unpack <;> rfl
  | infinity s =>
    cases y.toModel.unpack with
    | notANumber => cases s <;> rfl
    | infinity t => cases s <;> cases t <;> rfl
    | zero t => cases s <;> rfl
    | finite t m e pos => cases s <;> rfl
  | zero s =>
    cases y.toModel.unpack with
    | notANumber => rfl
    | infinity t => cases t <;> rfl
    | zero t => rfl
    | finite t m e pos => exact compare_zero_finite
  | finite s m e pos =>
    cases hy : y.toModel.unpack with
    | notANumber => cases s <;> rfl
    | infinity t => cases s <;> cases t <;> rfl
    | zero t => exact compare_finite_zero
    | finite t m' e' pos' => exact compare_finite (canonical_of_unpack hx) (canonical_of_unpack hy)

/-- `Float`s compare as their exact values. -/
theorem compareFloats?_eq_exact (x y : Float) :
    Number.compareFloats? x y = Option.map₂ compare (exactValue? x) (exactValue? y) := by
  have lt (x y : Float) : x < y ↔ Option.map₂ compare (exactValue? x) (exactValue? y) = some .lt := by
    rw [← compare_unpack]
    change decide ((x.toModel.unpack.compare y.toModel.unpack == some .lt) = true) = true ↔ _
    rw [decide_eq_true_iff, beq_iff_eq]
  have eq : (x == y) = true ↔ Option.map₂ compare (exactValue? x) (exactValue? y) = some .eq := by
    rw [← compare_unpack]
    change (x.toModel.unpack.compare y.toModel.unpack == some .eq) = true ↔ _
    rw [beq_iff_eq]
  unfold Number.compareFloats?
  simp only [lt, eq]
  cases exactValue? x with
  | none => simp
  | some u =>
    cases exactValue? y with
    | none => simp
    | some v =>
      simp only [Option.map₂_some_some, Option.some.injEq]
      rcases lt_trichotomy u v with h | h | h
      · simp [compare_lt_iff_lt.2 h]
      · simp [compare_eq_iff_eq.2 h]
      · simp [compare_gt_iff_gt.2 h, compare_lt_iff_lt.2 h]

/-- A `Float` and a whole number compare as their exact values. -/
theorem compareInt?_eq_exact (x : Float) (n : Int) :
    compareInt? x n = (exactValue? x).map fun u => compare u (.ofInt n) := by
  unfold compareInt? exactValue?
  cases hx : x.toModel.unpack with
  | notANumber => rfl
  | infinity s => cases s <;> rfl
  | zero s =>
    have scaled := compare_mul_right 0 n (c := 2 ^ 1074) (by positivity)
    rw [zero_mul] at scaled
    rw [exactOf_zero, Option.map_some, Exact.ofInt, Exact.compare_units, scaled]
  | finite s m e pos =>
    have least := (canonical_of_unpack hx).least
    rw [exactOf_finite, Option.map_some, Exact.ofInt, Exact.compare_units]
    dsimp only
    -- the comparison scales whichever side would have a fraction
    split
    · next whole =>
      have shift : (e + 1074).toNat = e.toNat + 1074 := by omega
      rw [← compare_mul_right _ n (c := 2 ^ 1074) (by positivity), shift, pow_add, ← mul_assoc]
      norm_cast
    · next fraction =>
      have shift : 1074 = (-e).toNat + (e + 1074).toNat := by omega
      rw [← compare_mul_right (s.apply m) _ (c := 2 ^ (e + 1074).toNat) (by positivity)]
      conv_rhs => rw [shift, pow_add, ← mul_assoc]
      norm_cast

end Binary

/-- Numbers compare as their exact values. -/
theorem Number.compare?_eq_exact (a b : Number) :
    a.compare? b = Option.map₂ compare a.exactValue? b.exactValue? := by
  cases a with
  | int a =>
    cases b with
    | int b =>
      simp only [compare?, exactValue?, Option.map₂_some_some, Exact.ofInt, Exact.compare_units]
      rw [compare_mul_right _ _ (by positivity)]
    | real y =>
      simp only [compare?, exactValue?, Binary.compareInt?_eq_exact, Option.map_map]
      cases Binary.exactValue? y with
      | none => rfl
      | some v => simp [compare_swap]
  | real x =>
    cases b with
    | int b =>
      simp only [compare?, exactValue?, Binary.compareInt?_eq_exact]
      cases Binary.exactValue? x <;> rfl
    | real y => exact Binary.compareFloats?_eq_exact x y

/-- Numbers are equal when they have the same exact value. -/
theorem Number.eq_iff_exact {a b : Number} :
    a.eq b = true ↔ ∃ u, a.exactValue? = some u ∧ b.exactValue? = some u := by
  unfold Number.eq
  rw [beq_iff_eq, Number.compare?_eq_exact]
  cases a.exactValue? with
  | none => simp
  | some u =>
    cases b.exactValue? with
    | none => simp
    | some v =>
      rw [Option.map₂_some_some, Option.some_inj, compare_eq_iff_eq]
      simp [eq_comm]

end TickCircuit

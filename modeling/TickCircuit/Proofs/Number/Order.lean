import TickCircuit.Proofs.Number.Operations

/-!
# The Order of Numbers

Numbers are ordered by their exact values, and a NaN is neither above nor below anything. So the order of
`Float`s is transitive, and it agrees with sums as far as rounding lets it: adding the same amount to two
`Float`s keeps their order (`add_le_add`), and taking away an amount does not lead upwards
(`not_lt_sub`). What is held between two bounds lies between them (`Number.clamp_within`).
-/

namespace TickCircuit

open Float.Model Float.Model.UnpackedFloat

/-! ## §1 Exact Values in Order -/

namespace Binary

variable {x y z d : Float} {a b : ℤ}

theorem lt_iff : x < y ↔ ∃ u v, exactValue? x = some u ∧ exactValue? y = some v ∧ u < v := by
  change decide ((x.toModel.unpack.compare y.toModel.unpack == some .lt) = true) = true ↔ _
  rw [decide_eq_true_iff, beq_iff_eq, compare_unpack]
  cases exactValue? x <;> cases exactValue? y <;> simp [compare_lt_iff_lt]

theorem lt_iff_exact {u v : Exact} (valueX : exactValue? x = some u) (valueY : exactValue? y = some v) :
    x < y ↔ u < v := by
  simp [lt_iff, valueX, valueY]

theorem le_iff : x ≤ y ↔ ∃ u v, exactValue? x = some u ∧ exactValue? y = some v ∧ u ≤ v := by
  change decide ((x.toModel.unpack.compare y.toModel.unpack).any (·.isLE) = true) = true ↔ _
  rw [decide_eq_true_iff, compare_unpack]
  cases exactValue? x <;> cases exactValue? y <;> simp [Std.LawfulBCmp.isLE_iff_le]

protected theorem lt_of_le_of_lt (le : x ≤ y) (lt : y < z) : x < z := by
  obtain ⟨u, v, valueX, valueY, order⟩ := le_iff.1 le
  obtain ⟨v', w, valueY', valueZ, order'⟩ := lt_iff.1 lt
  cases valueY.symm.trans valueY'
  exact lt_iff.2 ⟨u, w, valueX, valueZ, order.trans_lt order'⟩

protected theorem lt_of_lt_of_le (lt : x < y) (le : y ≤ z) : x < z := by
  obtain ⟨u, v, valueX, valueY, order⟩ := lt_iff.1 lt
  obtain ⟨v', w, valueY', valueZ, order'⟩ := le_iff.1 le
  cases valueY.symm.trans valueY'
  exact lt_iff.2 ⟨u, w, valueX, valueZ, order.trans_le order'⟩

protected theorem le_trans (le : x ≤ y) (le' : y ≤ z) : x ≤ z := by
  obtain ⟨u, v, valueX, valueY, order⟩ := le_iff.1 le
  obtain ⟨v', w, valueY', valueZ, order'⟩ := le_iff.1 le'
  cases valueY.symm.trans valueY'
  exact le_iff.2 ⟨u, w, valueX, valueZ, order.trans order'⟩

/-- Packing keeps the order against finite `Float`s. -/
theorem units_lt_packedValue_iff {r : ℤ} (inRange : a.natAbs < ceiling) :
    .units a < packedValue r ↔ a < r := by
  unfold packedValue
  split
  · exact Exact.units_lt
  · next beyond =>
    split
    · exact iff_of_false not_lt_bot (by omega)
    · exact iff_of_true (lt_top_iff_ne_top.2 (Exact.units_ne_top a)) (by omega)

/-! ## §2 Sums in Order -/

theorem isFinite_iff : x.isFinite = true ↔ ∃ a, exactValue? x = some (.units a) := by
  have unpacked : x.isFinite = x.toModel.unpack.isFinite := rfl
  rw [unpacked]
  unfold exactValue?
  cases x.toModel.unpack with
  | notANumber => simp [UnpackedFloat.isFinite, exactOf]
  | infinity s =>
    cases s
    · simp [UnpackedFloat.isFinite, exactOf, (Exact.units_ne_bot _).symm]
    · simp [UnpackedFloat.isFinite, exactOf, (Exact.units_ne_top _).symm]
  | zero s => simp [UnpackedFloat.isFinite, exactOf, Exact.units_injective.eq_iff]
  | finite s m e pos => simp [UnpackedFloat.isFinite, exactOf, Exact.units_injective.eq_iff]

/-- What is no NaN is an infinity or finite. -/
theorem value_cases {w : Exact} (value : exactValue? x = some w) :
    (∃ s, x.toModel.unpack = .infinity s ∧ exactOf (.infinity s) = some w) ∨ ∃ a, w = .units a := by
  unfold exactValue? at value
  cases form : x.toModel.unpack with
  | notANumber =>
    rw [form] at value
    cases value
  | infinity s =>
    rw [form] at value
    exact .inl ⟨s, rfl, value⟩
  | zero s =>
    rw [form] at value
    exact .inr ⟨_, (Option.some.inj value).symm⟩
  | finite s m e pos =>
    rw [form] at value
    exact .inr ⟨_, (Option.some.inj value).symm⟩

theorem exactValue?_pack_infinity (s : Sign) :
    exactValue? (.ofModel (.pack (.infinity s))) = exactOf (.infinity s) := by
  cases s <;> rfl

section Infinities

variable {f : UnpackedFloat}

theorem IsUnits.add_infinity (units : IsUnits f a) (s : Sign) :
    UnpackedFloat.add .binary64 f (.infinity s) = .infinity s := by
  cases units <;> rfl

theorem IsUnits.infinity_sub (units : IsUnits f a) (s : Sign) :
    UnpackedFloat.sub .binary64 (.infinity s) f = .infinity s := by
  cases units <;> rfl

theorem IsUnits.infinity_mul (units : IsUnits f a) (pos : 0 < a) :
    UnpackedFloat.mul .binary64 (.infinity .positive) f = .infinity .positive := by
  cases units with
  | zero s => exact absurd pos (lt_irrefl 0)
  | @finite s m e posM canonical =>
    cases s with
    | positive => rfl
    | negative =>
      have : (0 : ℤ) < m * 2 ^ (e + 1074).toNat := by positivity
      rw [Sign.apply, neg_mul] at pos
      omega

end Infinities

/-- An infinite term outweighs a finite one. -/
theorem exactValue?_add_infinity (value : exactValue? x = some (.units a)) {s : Sign}
    (form : d.toModel.unpack = .infinity s) : exactValue? (x + d) = exactOf (.infinity s) := by
  change exactValue? (.ofModel (.pack (UnpackedFloat.add .binary64 x.toModel.unpack
    d.toModel.unpack))) = _
  rw [form, (isUnits_unpack value).add_infinity, exactValue?_pack_infinity]

/-- Adding the same amount to finite `Float`s keeps their order. -/
protected theorem add_le_add (le : x ≤ y) (finiteX : x.isFinite = true) (finiteY : y.isFinite = true)
    {w : Exact} (number : exactValue? d = some w) : x + d ≤ y + d := by
  obtain ⟨a, valueX⟩ := isFinite_iff.1 finiteX
  obtain ⟨b, valueY⟩ := isFinite_iff.1 finiteY
  obtain ⟨u, v, valueX', valueY', order⟩ := le_iff.1 le
  cases valueX.symm.trans valueX'
  cases valueY.symm.trans valueY'
  rw [Exact.units_le] at order
  rcases value_cases number with ⟨s, form, -⟩ | ⟨c, rfl⟩
  · have sumX := exactValue?_add_infinity valueX form
    have sumY := exactValue?_add_infinity valueY form
    cases s <;> exact le_iff.2 ⟨_, _, sumX, sumY, le_rfl⟩
  · obtain ⟨r, nearestX, sumX⟩ := roundsTo_add valueX number
    obtain ⟨r', nearestY, sumY⟩ := roundsTo_add valueY number
    rcases order.lt_or_eq with less | rfl
    · refine le_iff.2 ⟨_, _, sumX, sumY, packedValue_mono (nearestX.mono nearestY ?_)⟩
      exact add_lt_add_of_lt_of_le (by exact_mod_cast less) le_rfl
    · by_cases zero : a = 0
      · -- a sum with a zero is the other term, and zeros may differ in their signs
        subst zero
        obtain ⟨onGrid, inRange⟩ := onGrid_of_exactValue? number
        have kept {z : Float} (valueZ : exactValue? z = some (.units 0)) :
            exactValue? (z + d) = some (.units c) := by
          have rounds := roundsTo_add valueZ number
          rw [Int.cast_zero, zero_add] at rounds
          exact rounds.exactValue?_eq onGrid inRange
        exact le_iff.2 ⟨_, _, kept valueX, kept valueY, le_rfl⟩
      · cases eq_of_exactValue? valueX valueY fun same => zero (Exact.units_injective same)
        exact le_iff.2 ⟨_, _, sumX, sumX, le_rfl⟩

theorem sign_of_nonneg {w : Exact} {s : Sign} (above : .units 0 ≤ w)
    (sign : exactOf (.infinity s) = some w) : s = .positive := by
  cases s with
  | positive => rfl
  | negative =>
    cases Option.some.inj sign
    exact absurd above (not_le_of_gt (WithBot.bot_lt_coe _))

theorem nonneg_iff : 0.0 ≤ x ↔ ∃ w, exactValue? x = some w ∧ .units 0 ≤ w := by
  have zero : exactValue? 0.0 = some (.units 0) := by rfl
  rw [le_iff, zero]
  simp

/-- Where an endless amount is taken away, nothing is left. -/
theorem exactValue?_sub_infinity (t : Float) {p : Float} (form : p.toModel.unpack = .infinity .positive) :
    exactValue? (t - p) = none ∨ exactValue? (t - p) = some ⊥ := by
  -- an infinity less itself is a NaN
  have difference : UnpackedFloat.sub .binary64 t.toModel.unpack p.toModel.unpack = .notANumber ∨
      UnpackedFloat.sub .binary64 t.toModel.unpack p.toModel.unpack = .infinity .negative := by
    rw [form]
    cases t.toModel.unpack with
    | notANumber => exact .inl rfl
    | infinity s =>
      cases s
      · exact .inr rfl
      · exact .inl rfl
    | zero s => exact .inr rfl
    | finite s m e pos => exact .inr rfl
  refine difference.imp (fun none => ?_) fun lowest => ?_
  · change exactValue? (.ofModel (.pack (UnpackedFloat.sub .binary64 t.toModel.unpack
      p.toModel.unpack))) = _
    rw [none]
    rfl
  · change exactValue? (.ofModel (.pack (UnpackedFloat.sub .binary64 t.toModel.unpack
      p.toModel.unpack))) = _
    rw [lowest]
    rfl

/-- What is endless stays so where a finite amount is taken away. -/
theorem exactValue?_infinity_sub {s : Sign} (form : x.toModel.unpack = .infinity s)
    (value : exactValue? y = some (.units b)) : exactValue? (x - y) = exactOf (.infinity s) := by
  change exactValue? (.ofModel (.pack (UnpackedFloat.sub .binary64 x.toModel.unpack
    y.toModel.unpack))) = _
  rw [form, (isUnits_unpack value).infinity_sub, exactValue?_pack_infinity]

/-- Taking away an amount does not lead upwards. -/
theorem not_lt_sub (t : Float) {p : Float} (nonneg : 0.0 ≤ p) : ¬ t < t - p := by
  intro less
  obtain ⟨u, v, valueT, valueS, order⟩ := lt_iff.1 less
  obtain ⟨w, valueP, above⟩ := nonneg_iff.1 nonneg
  rcases value_cases valueP with ⟨s, formP, sign⟩ | ⟨b, rfl⟩
  · have upwards : s = .positive := sign_of_nonneg above sign
    subst upwards
    rcases exactValue?_sub_infinity t formP with none | lowest
    · cases none.symm.trans valueS
    · cases lowest.symm.trans valueS
      exact not_lt_bot order
  · rcases value_cases valueT with ⟨s, formT, endless⟩ | ⟨a, rfl⟩
    · have kept := exactValue?_infinity_sub formT valueP
      cases Option.some.inj ((endless.symm.trans kept.symm).trans valueS)
      exact lt_irrefl _ order
    · obtain ⟨onGrid, inRange⟩ := onGrid_of_exactValue? valueT
      obtain ⟨r, nearest, value⟩ := roundsTo_sub valueT valueP
      cases Option.some.inj (value.symm.trans valueS)
      have amount : (0 : ℚ) ≤ b := by exact_mod_cast Exact.units_le.1 above
      have rounded := packedValue_mono (nearest.le onGrid (sub_le_self _ amount))
      rw [packedValue_of_lt inRange] at rounded
      exact absurd order (not_lt_of_ge rounded)

/-- A positive factor keeps what is not negative from becoming so. -/
protected theorem mul_nonneg (nonneg : 0.0 ≤ x) (valueY : exactValue? y = some (.units b)) (pos : 0 < b) :
    0.0 ≤ x * y := by
  obtain ⟨w, valueX, above⟩ := nonneg_iff.1 nonneg
  rw [nonneg_iff]
  rcases value_cases valueX with ⟨s, formX, sign⟩ | ⟨a, rfl⟩
  · have upwards : s = .positive := sign_of_nonneg above sign
    subst upwards
    refine ⟨⊤, ?_, le_top⟩
    change exactValue? (.ofModel (.pack (UnpackedFloat.mul .binary64 x.toModel.unpack
      y.toModel.unpack))) = _
    rw [formX, (isUnits_unpack valueY).infinity_mul pos, exactValue?_pack_infinity]
    rfl
  · obtain ⟨r, nearest, value⟩ := roundsTo_mul valueX valueY
    have product : ((0 : ℤ) : ℚ) ≤ a * b / 2 ^ 1074 := by
      have first : (0 : ℚ) ≤ a := by exact_mod_cast Exact.units_le.1 above
      have second : (0 : ℚ) ≤ b := by exact_mod_cast pos.le
      rw [Int.cast_zero]
      exact div_nonneg (mul_nonneg first second) (pow_nonneg zero_le_two _)
    have rounded := packedValue_mono (nearest.ge onGrid_zero product)
    rw [packedValue_zero] at rounded
    exact ⟨_, value, rounded⟩

/-- Seconds that are not negative are no negative milliseconds. -/
theorem mul_thousand_nonneg (nonneg : 0.0 ≤ x) : 0.0 ≤ x * 1000.0 := by
  have thousand : exactValue? 1000.0 = some (.units (8796093022208000 * 2 ^ 1031)) := by rfl
  exact Binary.mul_nonneg nonneg thousand (mul_pos (by norm_num) (pow_pos two_pos _))

end Binary

/-! ## §3 Numbers in Order -/

namespace Number

variable {a b : Number} {u v : Exact}

theorem lt_iff_exact (exactA : a.exactValue? = some u) (exactB : b.exactValue? = some v) :
    a.lt b = true ↔ u < v := by
  rw [lt, compare?_eq_exact, exactA, exactB, Option.map₂_some_some, beq_iff_eq, Option.some_inj,
    compare_lt_iff_lt]

theorem le_iff_exact (exactA : a.exactValue? = some u) (exactB : b.exactValue? = some v) :
    a.le b = true ↔ u ≤ v := by
  rw [le, compare?_eq_exact, exactA, exactB, Option.map₂_some_some, Bool.or_eq_true, beq_iff_eq,
    beq_iff_eq, Option.some_inj, Option.some_inj, compare_lt_iff_lt, compare_eq_iff_eq, le_iff_lt_or_eq]

theorem lt_real {x y : Float} : (real x).lt (real y) = true ↔ x < y := by
  rw [lt, beq_iff_eq]
  change compareFloats? x y = _ ↔ _
  rw [Binary.compareFloats?_eq_exact, Binary.lt_iff]
  cases Binary.exactValue? x <;> cases Binary.exactValue? y <;> simp [compare_lt_iff_lt]

/-- A positive number is no less so as a `Float`. -/
theorem zero_lt_toFloat (positive : (int 0).lt a = true) : 0.0 < a.toFloat := by
  cases a with
  | int n => exact Binary.ofInt_pos (by simpa [lt, compare?, compare_lt_iff_lt] using positive)
  | real x =>
    cases value : Binary.exactValue? x with
    | none =>
      rw [lt, compare?_eq_exact, show (real x).exactValue? = none from value, Option.map₂_none_right]
        at positive
      cases positive
    | some w =>
      have above := (lt_iff_exact (a := int 0) (b := real x) rfl value).1 positive
      exact Binary.zero_lt_iff.2 ⟨w, value, by rwa [Exact.ofInt_zero] at above⟩

/-- A number that is not negative is not so as a `Float` either. -/
theorem zero_le_toFloat (exactA : a.exactValue? = some u) (nonneg : .units 0 ≤ u) : 0.0 ≤ a.toFloat := by
  cases a with
  | int n =>
    cases exactA
    rcases (Exact.units_le.1 nonneg).lt_or_eq with positive | zero
    · have : 0 < n := pos_of_mul_pos_left positive (pow_nonneg zero_le_two _)
      obtain ⟨w, value, above⟩ := Binary.zero_lt_iff.1 (Binary.ofInt_pos this)
      exact Binary.nonneg_iff.2 ⟨w, value, above.le⟩
    · cases (mul_eq_zero.1 zero.symm).resolve_right (pow_ne_zero _ two_ne_zero)
      decide
  | real x => exact Binary.nonneg_iff.2 ⟨u, exactA, nonneg⟩

theorem exactValue?_min (exactA : a.exactValue? = some u) (exactB : b.exactValue? = some v) :
    (if a.lt b then a else b).exactValue? = some (min u v) := by
  split
  · next less => rw [exactA, min_eq_left ((lt_iff_exact exactA exactB).1 less).le]
  · next notLess =>
    rw [exactB, min_eq_right (not_lt.1 ((lt_iff_exact exactA exactB).not.1 notLess))]

theorem exactValue?_max (exactA : a.exactValue? = some u) (exactB : b.exactValue? = some v) :
    (if b.lt a then a else b).exactValue? = some (max u v) := by
  split
  · next less => rw [exactA, max_eq_left ((lt_iff_exact exactB exactA).1 less).le]
  · next notLess =>
    rw [exactB, max_eq_right (not_lt.1 ((lt_iff_exact exactB exactA).not.1 notLess))]

/-- What is clamped is the number itself or one of the bounds. -/
theorem clamp_mem (a : Number) (lower upper : Option Number) :
    a.clamp lower upper = a ∨ a.clamp lower upper ∈ lower ∨ a.clamp lower upper ∈ upper := by
  cases lower <;> cases upper <;> grind [clamp]

/-- What is held between bounds is not below the lower one, and not above the upper one unless this lies
below the lower one. -/
theorem clamp_within {lower upper : Option Number} (exactA : a.exactValue? = some u)
    (lowers : ∀ l ∈ lower, ∃ w, l.exactValue? = some w)
    (uppers : ∀ r ∈ upper, ∃ w, r.exactValue? = some w) :
    (∀ l ∈ lower, l.le (a.clamp lower upper) = true) ∧
      ∀ r ∈ upper, (∀ l ∈ lower, r.lt l = false) → (a.clamp lower upper).le r = true := by
  -- the upper bound is applied first, so the lower one has the last word
  cases upper with
  | none =>
    refine ⟨fun l given => ?_, nofun⟩
    cases given
    obtain ⟨w, exactL⟩ := lowers l rfl
    exact (le_iff_exact exactL (exactValue?_max exactL exactA)).2 (le_max_left _ _)
  | some r =>
    obtain ⟨x, exactR⟩ := uppers r rfl
    have capped := exactValue?_min exactR exactA
    cases lower with
    | none =>
      refine ⟨nofun, fun _ given _ => ?_⟩
      cases given
      exact (le_iff_exact capped exactR).2 (min_le_left _ _)
    | some l =>
      obtain ⟨w, exactL⟩ := lowers l rfl
      have held := exactValue?_max exactL capped
      refine ⟨fun _ given => ?_, fun _ given ordered => ?_⟩
      · cases given
        exact (le_iff_exact exactL held).2 (le_max_left _ _)
      · cases given
        have apart := (lt_iff_exact exactR exactL).not.1 (Bool.eq_false_iff.1 (ordered l rfl))
        exact (le_iff_exact held exactR).2 (max_le (not_lt.1 apart) (min_le_left _ _))

end Number

end TickCircuit

import TickCircuit.Proofs.Number.WholeParts
import TickCircuit.Proofs.Signal.Reading

/-!
# Equality of Signals

Signals are equal loosely, as numbers within a tolerance or else as texts, or strictly, as values of one
kind. Neither comparison depends on the order of its two sides, and what is strictly equal is loosely
equal within every tolerance (`equality_coherent`).

Two points need an argument. The difference of two `Float`s is rounded, and the two differences are the
same but for their signs only because rounding takes no notice of signs (`Binary.abs_sub_comm`). And a
whole number that is equal to a `Float` is within the range of `Float`s, so that it is read as itself and
not as an infinity (`reading?_of_eq`).
-/

namespace TickCircuit

open Float.Model Float.Model.UnpackedFloat

/-! ## §1 Distances -/

namespace Binary

/-- Rounding takes no notice of the sign. -/
theorem abs_round (s t : Sign) (m : ℕ) (e : ℤ) :
    (UnpackedFloat.round .binary64 s m e).abs = (UnpackedFloat.round .binary64 t m e).abs := by
  unfold UnpackedFloat.round roundWithAccuracy
  dsimp only
  split <;> rfl

theorem abs_normalize_neg (n e : ℤ) (s : Sign) :
    (UnpackedFloat.normalize .binary64 (-n) e s).abs =
      (UnpackedFloat.normalize .binary64 n e s).abs := by
  rcases lt_trichotomy n 0 with below | rfl | above
  · unfold UnpackedFloat.normalize
    rw [compare_gt_iff_gt.2 (by omega : -n > 0), compare_lt_iff_lt.2 below]
    exact abs_round _ _ _ _
  · rw [neg_zero]
  · unfold UnpackedFloat.normalize
    rw [compare_lt_iff_lt.2 (by omega : -n < 0), compare_gt_iff_gt.2 above, neg_neg]
    exact abs_round _ _ _ _

/-- The two differences of unpacked `Float`s are the same but for their signs. -/
theorem abs_unpacked_sub_comm (f g : UnpackedFloat) :
    (UnpackedFloat.sub .binary64 f g).abs = (UnpackedFloat.sub .binary64 g f).abs := by
  cases f with
  | notANumber => cases g <;> rfl
  | infinity s =>
    cases g with
    | infinity t => cases s <;> cases t <;> rfl
    | _ => rfl
  | zero s =>
    cases g with
    | zero t => cases s <;> cases t <;> rfl
    | _ => rfl
  | finite s m e pos =>
    cases g with
    | finite t m' e' pos' =>
      simp only [UnpackedFloat.sub]
      rw [← abs_normalize_neg, neg_sub, min_comm]
    | _ => rfl

/-- The sign bit decides about nothing but the sign. -/
theorem abs_unpack_packComponents {spec : Format} (s t : Sign) (exponent : BitVec spec.exponentBits)
    (mantissa : BitVec spec.mantissaBitsWithoutImplicit) :
    (UnpackedFloat.unpack spec (packComponents spec s exponent mantissa)).abs =
      (UnpackedFloat.unpack spec (packComponents spec t exponent mantissa)).abs := by
  unfold UnpackedFloat.unpack
  simp only [unpackMantissa_packComponents, unpackExponent_packComponents]
  split_ifs <;> rfl

/-- What is the same but for the sign is packed into the same but for the sign. -/
theorem abs_unpack_pack {f g : UnpackedFloat} (same : f.abs = g.abs) :
    (Float.Model.pack f).unpack.abs = (Float.Model.pack g).unpack.abs := by
  change (UnpackedFloat.unpack .binary64 (UnpackedFloat.pack .binary64 f)).abs =
    (UnpackedFloat.unpack .binary64 (UnpackedFloat.pack .binary64 g)).abs
  cases f with
  | notANumber =>
    cases g with
    | notANumber => rfl
    | _ => cases same
  | infinity s =>
    cases g with
    | infinity t => exact abs_unpack_packComponents s t _ _
    | _ => cases same
  | zero s =>
    cases g with
    | zero t => exact abs_unpack_packComponents s t _ _
    | _ => cases same
  | finite s m e pos =>
    cases g with
    | finite t m' e' pos' =>
      cases same
      -- the tests of the packing look at the mantissa and the exponent only
      unfold UnpackedFloat.pack
      dsimp only
      split_ifs <;> exact abs_unpack_packComponents s t _ _
    | _ => cases same

/-- `Float`s are as far apart from either side. -/
protected theorem abs_sub_comm (x y : Float) : (x - y).abs = (y - x).abs := by
  have distance (x y : Float) : (x - y).abs = .ofModel (.pack (Float.Model.pack
      (UnpackedFloat.sub .binary64 x.toModel.unpack y.toModel.unpack)).unpack.abs) := rfl
  rw [distance, distance, abs_unpack_pack (abs_unpacked_sub_comm _ _)]

end Binary

namespace Number

variable {a b : Number}

protected theorem eq_comm (a b : Number) : a.eq b = b.eq a := by
  rw [Bool.eq_iff_iff, eq_iff_exact, eq_iff_exact]
  simp only [and_comm]

/-- Numbers are as far apart from either side. -/
protected theorem abs_sub_comm (a b : Number) : (a.sub b).abs = (b.sub a).abs := by
  cases a with
  | int a =>
    cases b with
    | int b => rw [sub, sub, abs, abs, ← Int.natAbs_neg, neg_sub]
    | real y => exact congrArg real (Binary.abs_sub_comm (Binary.ofInt a) y)
  | real x =>
    cases b with
    | int b => exact congrArg real (Binary.abs_sub_comm x (Binary.ofInt b))
    | real y => exact congrArg real (Binary.abs_sub_comm x y)

end Number

/-! ## §2 The Two Comparisons -/

namespace Value

variable {a b : Value} {x y : Number}

theorem within_comm (tolerance : Option Number) (x y : Number) :
    within tolerance x y = within tolerance y x := by
  unfold within
  rw [Number.eq_comm, Number.abs_sub_comm]

theorem looseEquals_comm (a b : Value) (tolerance : Option Number) :
    a.looseEquals b tolerance = b.looseEquals a tolerance := by
  unfold looseEquals
  cases a.reading? with
  | none =>
    cases b.reading? <;> exact Bool.beq_comm
  | some x =>
    cases b.reading? with
    | none => exact Bool.beq_comm
    | some y => exact within_comm tolerance x y

/-- Numbers are strictly equal when they have the same exact value. -/
theorem strictEquals_ofNumber (x y : Number) :
    (ofNumber x).strictEquals (ofNumber y) = true ↔ x.eq y = true := by
  cases x with
  | int m =>
    cases y with
    | int n =>
      rw [Number.eq, Number.compare?, beq_iff_eq, Option.some_inj, compare_eq_iff_eq]
      exact beq_iff_eq
    | real y => exact Iff.rfl
  | real x =>
    cases y with
    | int n => exact Iff.rfl
    | real y =>
      rw [Number.eq, Number.compare?, Binary.compareFloats?_eq_exact, ← Binary.compare_unpack]
      exact Iff.rfl

/-- Signals are strictly equal when both are absent, when they are one text, and when they are numbers of
one value. -/
theorem strictEquals_iff : a.strictEquals b = true ↔
    (a = absent ∧ b = absent) ∨ (∃ s, a = text s ∧ b = text s) ∨
      ∃ x y, a = ofNumber x ∧ b = ofNumber y ∧ x.eq y = true := by
  constructor
  · intro equal
    have numbers (x y : Number) (equal : (ofNumber x).strictEquals (ofNumber y) = true) :
        ∃ x' y', ofNumber x = ofNumber x' ∧ ofNumber y = ofNumber y' ∧ x'.eq y' = true :=
      ⟨x, y, rfl, rfl, (strictEquals_ofNumber x y).1 equal⟩
    -- two signals of different kinds are never equal, whole numbers and `Float`s apart
    cases a with
    | absent =>
      cases b with
      | absent => exact .inl ⟨rfl, rfl⟩
      | _ => cases equal
    | text s =>
      cases b with
      | text t => exact .inr (.inl ⟨s, rfl, congrArg text (beq_iff_eq.1 equal).symm⟩)
      | _ => cases equal
    | int m =>
      cases b with
      | int n => exact .inr (.inr (numbers (.int m) (.int n) equal))
      | real y => exact .inr (.inr (numbers (.int m) (.real y) equal))
      | _ => cases equal
    | real x =>
      cases b with
      | int n => exact .inr (.inr (numbers (.real x) (.int n) equal))
      | real y => exact .inr (.inr (numbers (.real x) (.real y) equal))
      | _ => cases equal
    | _ => cases equal
  · rintro (⟨rfl, rfl⟩ | ⟨s, rfl, rfl⟩ | ⟨x, y, rfl, rfl, equal⟩)
    · rfl
    · exact beq_self_eq_true s
    · exact (strictEquals_ofNumber x y).2 equal

theorem strictEquals_comm (a b : Value) : a.strictEquals b = b.strictEquals a := by
  have turned {a b : Value} (strict : a.strictEquals b = true) : b.strictEquals a = true := by
    rcases strictEquals_iff.1 strict with ⟨rfl, rfl⟩ | ⟨s, rfl, rfl⟩ | ⟨x, y, rfl, rfl, equal⟩
    · rfl
    · exact beq_self_eq_true s
    · rw [strictEquals_ofNumber, Number.eq_comm]
      exact equal
  exact Bool.eq_iff_iff.2 ⟨turned, turned⟩

/-! ## §3 From Strict to Loose -/

/-- A `Float` with a value is read as itself. -/
theorem reading?_real {x : Float} {u : Exact} (value : Binary.exactValue? x = some u) :
    (real x).reading? = some (.real x) := by
  have number : x.isNaN = false := by
    rw [Bool.eq_false_iff]
    intro isNaN
    have form : x.toModel.unpack.isNaN = true := isNaN
    unfold Binary.exactValue? at value
    cases unpacked : x.toModel.unpack with
    | notANumber =>
      rw [unpacked] at value
      cases value
    | _ =>
      rw [unpacked] at form
      cases form
  rw [reading?, unlessNaN, number]
  rfl

/-- A whole number that is the value of a `Float` is read as itself. -/
theorem reading?_int {y : Float} {n : ℤ} (value : Binary.exactValue? y = some (.ofInt n)) :
    (int n).reading? = some (.int n) := by
  have held : Binary.holdsInt n = true :=
    Binary.isFinite_iff.2 ⟨_, Binary.isFloat_iff.1 (Binary.isFloat_of_exactValue? value)⟩
  rw [reading?, if_pos held]

/-- Numbers of one value are the same whole number, or both are read as themselves. -/
theorem reading?_of_eq (equal : x.eq y = true) :
    ofNumber x = ofNumber y ∨
      (ofNumber x).reading? = some x ∧ (ofNumber y).reading? = some y := by
  obtain ⟨u, valueX, valueY⟩ := Number.eq_iff_exact.1 equal
  cases x with
  | int m =>
    cases y with
    | int n =>
      -- a whole number out of range is not read as itself, but it is equal to itself only
      rw [Number.eq, Number.compare?, beq_iff_eq, Option.some_inj, compare_eq_iff_eq] at equal
      exact .inl (congrArg int equal)
    | real y =>
      cases valueX
      exact .inr ⟨reading?_int valueY, reading?_real valueY⟩
  | real x =>
    cases y with
    | int n =>
      cases valueY
      exact .inr ⟨reading?_real valueX, reading?_int valueX⟩
    | real y => exact .inr ⟨reading?_real valueX, reading?_real valueY⟩

theorem looseEquals_of_strictEquals (strict : a.strictEquals b = true) (tolerance : Option Number) :
    a.looseEquals b tolerance = true := by
  rcases strictEquals_iff.1 strict with ⟨rfl, rfl⟩ | ⟨s, rfl, rfl⟩ | ⟨x, y, rfl, rfl, equal⟩
  · exact looseEquals_self _ tolerance
  · exact looseEquals_self _ tolerance
  · rcases reading?_of_eq equal with same | ⟨readX, readY⟩
    · rw [same]
      exact looseEquals_self _ tolerance
    · rw [looseEquals, readX, readY]
      simp only [within, equal, Bool.true_or]

end Value

end TickCircuit

import TickCircuit.Fault
import TickCircuit.Proofs.Number.Exact

/-!
# Keys

What a value is as a key: null, `absent`, a text, or the exact value of a number. Two values are the
same key exactly when they have the same form (`sameScalar_iff`), so being the same key is symmetric
and transitive, and it is reflexive on everything that has a form, that is on all keys but a NaN.
-/

namespace TickCircuit

/-- The form of a value as a key. -/
inductive Key where
  | null
  | absent
  | text (value : String)
  | number (value : Exact)

namespace Value

/-! ## §1 The Form of a Key -/

/-- The form of a value as a key; a NaN, a list and an object have none. -/
def key? : Value → Option Key
  | null => some .null
  | absent => some .absent
  | text s => some (.text s)
  | v => (v.number?.bind Number.exactValue?).map .number

/-- Two values are the same key when they have the same form. -/
theorem sameScalar_iff {a b : Value} :
    a.sameScalar b = true ↔ ∃ k, a.key? = some k ∧ b.key? = some k := by
  -- only numbers have more than one value of the same form
  have numbers {x y : Number} : x.eq y = true ↔
      ∃ k, x.exactValue?.map Key.number = some k ∧ y.exactValue?.map Key.number = some k := by
    rw [Number.eq_iff_exact]
    cases x.exactValue? <;> cases y.exactValue? <;> simp
  cases a <;> cases b <;> simp [sameScalar, key?, number?, numbers]
  case text.text => exact eq_comm

theorem sameScalar_comm (a b : Value) : a.sameScalar b = b.sameScalar a := by
  rw [Bool.eq_iff_iff, sameScalar_iff, sameScalar_iff]
  simp only [and_comm]

theorem sameScalar_trans {a b c : Value} (hab : a.sameScalar b = true)
    (hbc : b.sameScalar c = true) : a.sameScalar c = true := by
  obtain ⟨k, ha, hb⟩ := sameScalar_iff.1 hab
  obtain ⟨l, hb', hc⟩ := sameScalar_iff.1 hbc
  have : k = l := Option.some.inj (hb.symm.trans hb')
  exact sameScalar_iff.2 ⟨k, ha, this ▸ hc⟩

/-- Values that are the same key are the same key as the same values. -/
theorem sameScalar_congr_left {a b : Value} (h : a.sameScalar b = true) (c : Value) :
    a.sameScalar c = b.sameScalar c := by
  rw [Bool.eq_iff_iff]
  exact ⟨sameScalar_trans ((sameScalar_comm b a).trans h), sameScalar_trans h⟩

theorem sameScalar_congr_key? {a b : Value} (h : a.key? = b.key?) (c : Value) :
    a.sameScalar c = b.sameScalar c := by
  rw [Bool.eq_iff_iff, sameScalar_iff, sameScalar_iff, h]

theorem sameScalar_congr_right {a b : Value} (h : a.sameScalar b = true) (c : Value) :
    c.sameScalar a = c.sameScalar b := by
  rw [sameScalar_comm c a, sameScalar_comm c b, sameScalar_congr_left h]

/-- A text is the same key as an equal text only. -/
@[simp] theorem text_sameScalar {s : String} {v : Value} :
    (text s).sameScalar v = true ↔ v = text s := by
  cases v <;> simp [sameScalar, number?]
  case text => exact eq_comm

@[simp] theorem sameScalar_text {s : String} {v : Value} :
    v.sameScalar (text s) = true ↔ v = text s := by
  rw [sameScalar_comm, text_sameScalar]

/-! ## §2 Keys -/

@[simp] theorem isKey_text (s : String) : (text s).isKey = true := rfl

theorem asKey_of_isKey {v : Value} (h : v.isKey = true) : v.asKey = .ok v := by
  rw [asKey, if_pos h]

@[simp] theorem asKey_text (s : String) : (text s).asKey = .ok (text s) := rfl

theorem isKey_of_asKey {v k : Value} (h : v.asKey = .ok k) : v.isKey = true ∧ k = v := by
  unfold asKey at h
  split at h
  · next key => exact ⟨key, (Except.ok.inj h).symm⟩
  · cases h

theorem isKey_of_sameScalar {a b : Value} (h : a.sameScalar b = true) : a.isKey = true := by
  cases a <;> simp_all [isKey, sameScalar, number?]

/-- On keys, equality is being the same key. -/
theorem same_eq_sameScalar {a : Value} (h : a.isKey = true) (b : Value) :
    a.same b = a.sameScalar b := by
  cases a <;> first | rfl | simp [isKey] at h

/-! ## §3 Texts -/

/-- A value that is a text. -/
def IsText (v : Value) : Prop := ∃ s, v = text s

/-- A text is equal to the same text only. -/
theorem IsText.same_iff {a b : Value} (h : a.IsText) : a.same b = true ↔ a = b := by
  obtain ⟨s, rfl⟩ := h
  rw [same_eq_sameScalar rfl, text_sameScalar, eq_comm]

end Value

end TickCircuit

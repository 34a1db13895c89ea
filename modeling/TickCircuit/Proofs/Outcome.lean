import Mathlib.Data.List.Forall2

/-!
# Lists of Operations that Succeed

An operation that may fail is carried out on every item of a list. When it succeeds on each of them,
the whole succeeds, and its result is that of the operation that cannot fail. Otherwise all that is
known of the results is that they are related to the items one by one.
-/

namespace TickCircuit.Outcome

variable {ε α β γ : Type}

/-! ## §1 Operations -/

/-- Two operations succeed when the first succeeds, and the second does on its result. -/
theorem bind_eq_ok {x : Except ε α} {f : α → Except ε β} {b : β} :
    x >>= f = .ok b ↔ ∃ a, x = .ok a ∧ f a = .ok b := by
  constructor
  · intro h
    cases x with
    | error e => cases h
    | ok a => exact ⟨a, rfl, h⟩
  · rintro ⟨a, rfl, h⟩
    exact h

/-- Operations that succeed on the same occasion. -/
theorem exists_ok_congr {x : Except ε α} {y : Except ε β} (same : x.isOk = y.isOk) :
    (∃ a, x = .ok a) ↔ ∃ b, y = .ok b := by
  cases x with
  | error e =>
    cases y with
    | error e' => exact iff_of_false (fun ⟨_, h⟩ => nomatch h) (fun ⟨_, h⟩ => nomatch h)
    | ok b => cases same
  | ok a =>
    cases y with
    | error e => cases same
    | ok b => exact iff_of_true ⟨a, rfl⟩ ⟨b, rfl⟩

theorem mapM_ok {f : α → Except ε β} {g : α → β} :
    ∀ {xs : List α}, (∀ x ∈ xs, f x = .ok (g x)) → xs.mapM f = .ok (xs.map g)
  | [], _ => rfl
  | x :: xs, h => by
    obtain ⟨first, rest⟩ := List.forall_mem_cons.1 h
    rw [List.mapM_cons, first, mapM_ok rest]
    rfl

/-- An operation succeeds on a list when it succeeds on each item. -/
theorem mapM_eq_ok_iff {f : α → Except ε β} {xs : List α} {ys : List β} :
    xs.mapM f = .ok ys ↔ List.Forall₂ (fun x y => f x = .ok y) xs ys := by
  induction xs generalizing ys with
  | nil =>
    constructor
    · intro h
      cases h
      exact .nil
    · rintro ⟨⟩
      rfl
  | cons x rest ih =>
    rw [List.mapM_cons, bind_eq_ok]
    constructor
    · rintro ⟨y, first, h⟩
      obtain ⟨ys, others, h⟩ := bind_eq_ok.1 h
      cases h
      exact .cons first (ih.1 others)
    · rintro (_ | ⟨first, others⟩)
      exact ⟨_, first, bind_eq_ok.2 ⟨_, ih.2 others, rfl⟩⟩

theorem foldlM_ok {f : β → α → Except ε β} {g : β → α → β} :
    ∀ {xs : List α} (b : β), (∀ x ∈ xs, ∀ b, f b x = .ok (g b x)) →
      xs.foldlM f b = .ok (xs.foldl g b)
  | [], _, _ => rfl
  | x :: xs, b, h => by
    obtain ⟨first, rest⟩ := List.forall_mem_cons.1 h
    rw [List.foldlM_cons, first]
    exact foldlM_ok (g b x) rest

/-- What every successful operation keeps is kept by all of them. -/
theorem foldlM_invariant {f : β → α → Except ε β} {p : β → Prop}
    (step : ∀ b x b', f b x = .ok b' → p b → p b') :
    ∀ {xs : List α} {b b' : β}, xs.foldlM f b = .ok b' → p b → p b'
  | [], _, _, h, hb => by cases h; exact hb
  | x :: xs, b, b', h, hb => by
    rw [List.foldlM_cons, bind_eq_ok] at h
    obtain ⟨b₁, first, rest⟩ := h
    exact foldlM_invariant step rest (step b x b₁ first hb)

/-! ## §2 Related Lists -/

variable {R : α → β → Prop} {xs : List α} {ys : List β}

/-- What has come out comes from somewhere. -/
theorem exists_of_mem (h : List.Forall₂ R xs ys) {y : β} (member : y ∈ ys) : ∃ x ∈ xs, R x y := by
  induction h with
  | nil => cases member
  | @cons x y' rest rest' related _ ih =>
    rcases List.mem_cons.1 member with rfl | later
    · exact ⟨x, List.mem_cons_self, related⟩
    · obtain ⟨x', member, related⟩ := ih later
      exact ⟨x', List.mem_cons_of_mem _ member, related⟩

/-- Items that are related to something one by one are so together. -/
theorem exists_forall₂ (h : ∀ x ∈ xs, ∃ y, R x y) : ∃ ys, List.Forall₂ R xs ys := by
  induction xs with
  | nil => exact ⟨[], .nil⟩
  | cons x rest ih =>
    obtain ⟨⟨y, related⟩, others⟩ := List.forall_mem_cons.1 h
    obtain ⟨ys, all⟩ := ih others
    exact ⟨y :: ys, .cons related all⟩

/-- Related lists agree in a view when each item has the property that decides it. -/
theorem map_eq_iff_of_forall₂ {f : α → γ} {g : β → γ} {P : α → Prop}
    (related : List.Forall₂ (fun x y => g y = f x ↔ P x) xs ys) :
    ys.map g = xs.map f ↔ ∀ x ∈ xs, P x := by
  induction related with
  | nil => simp
  | @cons x y rest rest' here _ ih =>
    rw [List.map_cons, List.map_cons, List.cons.injEq, here, ih, List.forall_mem_cons]

end TickCircuit.Outcome

import Mathlib.Data.List.Forall2
import Mathlib.Tactic
import TickCircuit.Pattern.Reader

/-!
# Patterns of Like Widths

A look behind is refused unless all texts of its pattern have the same length. Two patterns are alike when
their widths are the same, or neither of them is a single one (`LikeTree`). Everything that patterns are
made of keeps this, so a look behind is refused with both of them or with none (`Width.Like.fixed?_eq`).

Sequences of items may also differ in a letter behind an optional item, for with such an item neither
sequence has a single width (`LikeItems`).
-/

namespace TickCircuit.Pattern

/-! ## §1 Widths -/

namespace Width

variable {w w' v v' : Width} {strict : Prop} {least : ℕ} {most : Option ℕ}

/-- The least number of characters is not above the greatest. -/
def Proper (w : Width) : Prop := ∀ n, w.most = some n → w.least ≤ n

/-- There is more than one number of characters. -/
def Loose (w : Width) : Prop := ∀ n, w.most = some n → w.least < n

theorem Loose.proper (loose : w.Loose) : w.Proper := fun n bound => (loose n bound).le

theorem proper_zero : zero.Proper := fun _ bound => (Option.some.inj bound).le

theorem proper_one : one.Proper := fun _ bound => (Option.some.inj bound).le

theorem add_comm (v w : Width) : v.add w = w.add v := by
  obtain ⟨l, m⟩ := v
  obtain ⟨l', m'⟩ := w
  cases m <;> cases m' <;> simp [add, Nat.add_comm]

theorem add_assoc (u v w : Width) : (u.add v).add w = u.add (v.add w) := by
  obtain ⟨l, m⟩ := u
  obtain ⟨l', m'⟩ := v
  obtain ⟨l'', m''⟩ := w
  cases m <;> cases m' <;> cases m'' <;> simp [add, Nat.add_assoc]

theorem add_zero (w : Width) : w.add zero = w := by
  obtain ⟨l, m⟩ := w
  cases m <;> rfl

/-- The greatest numbers of a sum. -/
theorem exists_of_add {n : ℕ} (bound : (v.add w).most = some n) :
    ∃ a b, v.most = some a ∧ w.most = some b ∧ n = a + b := by
  obtain ⟨l, m⟩ := v
  obtain ⟨l', m'⟩ := w
  cases m with
  | none => cases bound
  | some a =>
    cases m' with
    | none => cases bound
    | some b => exact ⟨a, b, rfl, rfl, (Option.some.inj bound).symm⟩

theorem Proper.add (proper : v.Proper) (proper' : w.Proper) : (v.add w).Proper := by
  intro n bound
  obtain ⟨a, b, first, second, rfl⟩ := exists_of_add bound
  exact Nat.add_le_add (proper a first) (proper' b second)

theorem Loose.add (loose : v.Loose) (proper : w.Proper) : (v.add w).Loose := by
  intro n bound
  obtain ⟨a, b, first, second, rfl⟩ := exists_of_add bound
  exact Nat.add_lt_add_of_lt_of_le (loose a first) (proper b second)

theorem exists_of_join {n : ℕ} (bound : (v.join w).most = some n) :
    ∃ a b, v.most = some a ∧ w.most = some b ∧ n = max a b := by
  obtain ⟨l, m⟩ := v
  obtain ⟨l', m'⟩ := w
  cases m with
  | none => cases bound
  | some a =>
    cases m' with
    | none => cases bound
    | some b => exact ⟨a, b, rfl, rfl, (Option.some.inj bound).symm⟩

theorem join_comm (v w : Width) : v.join w = w.join v := by
  obtain ⟨l, m⟩ := v
  obtain ⟨l', m'⟩ := w
  cases m <;> cases m' <;> simp [join, min_comm, max_comm]

theorem Proper.join (proper : v.Proper) (w : Width) : (v.join w).Proper := by
  intro n bound
  obtain ⟨a, b, first, second, rfl⟩ := exists_of_join bound
  exact (min_le_left _ _).trans ((proper a first).trans (le_max_left _ _))

theorem Loose.join (loose : v.Loose) (w : Width) : (v.join w).Loose := by
  intro n bound
  obtain ⟨a, b, first, second, rfl⟩ := exists_of_join bound
  exact (min_le_left _ _).trans_lt ((loose a first).trans_le (le_max_left _ _))

/-- The greatest number of a repetition. -/
theorem exists_of_rounds {n : ℕ} (bound : (w.rounds least most).most = some n) :
    (w.most = some 0 ∧ n = 0) ∨ (∃ a b, w.most = some a ∧ most = some b ∧ n = a * b) ∨
      (most = some 0 ∧ n = 0) := by
  obtain ⟨l, m⟩ := w
  unfold rounds at bound
  split at bound <;> simp_all

theorem Proper.rounds (proper : w.Proper) (ordered : ∀ n, most = some n → least ≤ n) :
    (w.rounds least most).Proper := by
  intro n bound
  change w.least * least ≤ n
  obtain ⟨none, rfl⟩ | ⟨a, b, first, second, rfl⟩ | ⟨none, rfl⟩ := exists_of_rounds bound
  · rw [Nat.le_zero.1 (proper 0 none), Nat.zero_mul]
  · exact Nat.mul_le_mul (proper a first) (ordered b second)
  · rw [Nat.le_zero.1 (ordered 0 none), Nat.mul_zero]

theorem Loose.rounds (loose : w.Loose) (ordered : ∀ n, most = some n → least ≤ n)
    (some_round : most ≠ some 0) : (w.rounds least most).Loose := by
  intro n bound
  change w.least * least < n
  obtain ⟨none, rfl⟩ | ⟨a, b, first, second, rfl⟩ | ⟨none, rfl⟩ := exists_of_rounds bound
  · exact absurd (loose 0 none) (Nat.not_lt_zero _)
  · have positive : 0 < b := Nat.pos_of_ne_zero fun zero => some_round (zero ▸ second)
    calc w.least * least ≤ w.least * b := Nat.mul_le_mul_left _ (ordered b second)
      _ < a * b := Nat.mul_lt_mul_of_pos_right (loose a first) positive
  · exact absurd none some_round

/-- Of no round nothing is left. -/
theorem rounds_none (w : Width) : w.rounds 0 (some 0) = zero := by
  obtain ⟨l, m⟩ := w
  cases m with
  | none => rfl
  | some n => cases n <;> rfl

/-- No single width. -/
theorem Loose.fixed?_eq (loose : w.Loose) : w.fixed? = none := by
  unfold fixed?
  rw [if_neg]
  intro single
  exact lt_irrefl _ (loose _ (beq_iff_eq.1 single))

/-- The widths are the same, or neither of them is a single one. Under `strict` they are the same. -/
inductive Like (strict : Prop) : Width → Width → Prop where
  | same {w : Width} (proper : w.Proper) : Like strict w w
  | loose {w w' : Width} (free : ¬ strict) (first : w.Loose) (second : w'.Loose) : Like strict w w'

namespace Like

theorem eq (like : Like strict w w') (sharp : strict) : w' = w := by
  cases like with
  | same => rfl
  | loose free => exact absurd sharp free

theorem proper (like : Like strict w w') : w.Proper ∧ w'.Proper := by
  cases like with
  | same proper => exact ⟨proper, proper⟩
  | loose _ first second => exact ⟨first.proper, second.proper⟩

theorem add (like : Like strict v v') (like' : Like strict w w') : Like strict (v.add w) (v'.add w') := by
  cases like with
  | same proper =>
    cases like' with
    | same proper' => exact .same (proper.add proper')
    | loose free first second =>
      rw [add_comm v, add_comm v]
      exact .loose free (first.add proper) (second.add proper)
  | loose free first second => exact .loose free (first.add like'.proper.1) (second.add like'.proper.2)

theorem join (like : Like strict v v') (like' : Like strict w w') : Like strict (v.join w) (v'.join w') := by
  cases like with
  | same proper =>
    cases like' with
    | same proper' => exact .same (proper.join _)
    | loose free first second =>
      rw [join_comm v, join_comm v]
      exact .loose free (first.join _) (second.join _)
  | loose free first second => exact .loose free (first.join _) (second.join _)

theorem rounds (like : Like strict w w') (ordered : ∀ n, most = some n → least ≤ n) :
    Like strict (w.rounds least most) (w'.rounds least most) := by
  cases like with
  | same proper => exact .same (proper.rounds ordered)
  | loose free first second =>
    by_cases none : most = some 0
    · subst none
      rw [Nat.le_zero.1 (ordered 0 rfl), rounds_none, rounds_none]
      exact .same proper_zero
    · exact .loose free (first.rounds ordered none) (second.rounds ordered none)

/-- Either both have the same single width, or none has one. -/
theorem fixed?_eq (like : Like strict w w') : w'.fixed? = w.fixed? := by
  cases like with
  | same => rfl
  | loose _ first second => rw [first.fixed?_eq, second.fixed?_eq]

end Like

end Width

/-! ## §2 Groups -/

variable {strict : Prop}

/-- The same groups are open, and those that are closed have like widths. -/
abbrev LikeGroups (strict : Prop) : List (Option Width) → List (Option Width) → Prop :=
  List.Forall₂ (Option.Rel (Width.Like strict))

namespace LikeGroups

variable {gs gs' : List (Option Width)} {g g' : Option Width}

theorem getElem? (like : LikeGroups strict gs gs') (i : ℕ) :
    Option.Rel (Option.Rel (Width.Like strict)) gs[i]? gs'[i]? := by
  induction like generalizing i with
  | nil => exact .none
  | cons first _ ih =>
    cases i with
    | zero => exact .some first
    | succ i => exact ih i

theorem append_open (like : LikeGroups strict gs gs') : LikeGroups strict (gs ++ [none]) (gs' ++ [none]) :=
  List.rel_append like (.cons .none .nil)

theorem set (like : LikeGroups strict gs gs') (i : ℕ) (new : Option.Rel (Width.Like strict) g g') :
    LikeGroups strict (gs.set i g) (gs'.set i g') := by
  induction like generalizing i with
  | nil => exact .nil
  | cons first rest ih =>
    cases i with
    | zero => exact .cons new rest
    | succ i => exact .cons first (ih i)

end LikeGroups

/-! ## §3 Parts of Patterns -/

/-- Parts that have like widths. Under `strict` they are the same part. -/
structure LikeTree (strict : Prop) (t t' : Tree) : Prop where
  eq : strict → t' = t
  width : ∀ {gs gs'}, LikeGroups strict gs gs' → Width.Like strict (t.width gs) (t'.width gs')

namespace LikeTree

variable {t t' u u' : Tree} {least : ℕ} {most : Option ℕ}

theorem empty : LikeTree strict .empty .empty := ⟨fun _ => rfl, fun _ => .same Width.proper_zero⟩

theorem any : LikeTree strict .any .any := ⟨fun _ => rfl, fun _ => .same Width.proper_one⟩

theorem anchor (place : Anchor) : LikeTree strict (.anchor place) (.anchor place) :=
  ⟨fun _ => rfl, fun _ => .same Width.proper_zero⟩

/-- The members of a set do not matter for its width. -/
theorem set {chars chars' : CharSet} (same : strict → chars' = chars) :
    LikeTree strict (.set chars) (.set chars') :=
  ⟨fun sharp => by rw [same sharp], fun _ => .same Width.proper_one⟩

theorem again (index : ℕ) : LikeTree strict (.again index) (.again index) := by
  refine ⟨fun _ => rfl, fun {gs gs'} groups => ?_⟩
  have entry := groups.getElem? index
  unfold Tree.width
  generalize gs[index]? = held, gs'[index]? = held' at entry ⊢
  cases entry with
  | none => exact .same Width.proper_zero
  | some held =>
    cases held with
    | none => exact .same Width.proper_zero
    | some like => exact like

theorem choice (like : LikeTree strict t t') (like' : LikeTree strict u u') :
    LikeTree strict (.choice t u) (.choice t' u') :=
  ⟨fun sharp => by rw [like.eq sharp, like'.eq sharp],
    fun groups => (like.width groups).join (like'.width groups)⟩

theorem group (like : LikeTree strict t t') (index : ℕ) : LikeTree strict (.group index t) (.group index t') :=
  ⟨fun sharp => by rw [like.eq sharp], fun groups => like.width groups⟩

theorem loop (like : LikeTree strict t t') (ordered : ∀ n, most = some n → least ≤ n) (greedy : Bool) :
    LikeTree strict (.loop least most greedy t) (.loop least most greedy t') :=
  ⟨fun sharp => by rw [like.eq sharp], fun groups => (like.width groups).rounds ordered⟩

theorem atomic (like : LikeTree strict t t') : LikeTree strict (.atomic t) (.atomic t') :=
  ⟨fun sharp => by rw [like.eq sharp], fun groups => like.width groups⟩

theorem look (like : LikeTree strict t t') (back : Option ℕ) (wanted : Bool) :
    LikeTree strict (.look back wanted t) (.look back wanted t') :=
  ⟨fun sharp => by rw [like.eq sharp], fun _ => .same Width.proper_zero⟩

end LikeTree

/-! ## §4 Sequences -/

/-- Like parts, and both or none may be repeated. -/
structure LikeItem (strict : Prop) (i i' : Item) : Prop where
  tree : LikeTree strict i.tree i'.tree
  repeatable : i'.repeatable = i.repeatable

theorem LikeItem.eq {i i' : Item} (like : LikeItem strict i i') (sharp : strict) : i' = i := by
  obtain ⟨t, r⟩ := i
  obtain ⟨t', r'⟩ := i'
  obtain ⟨tree, rfl⟩ := like
  cases tree.eq sharp
  rfl

/-- An opening parenthesis that may be left out. -/
def optionalParenthesis : Item := ⟨.loop 0 (some 1) true (single '('.toNat).tree, false⟩

/-- Sequences of like items, except that behind an optional parenthesis the second may have a letter more. -/
inductive LikeItems (strict : Prop) : List Item → List Item → Prop where
  | nil : LikeItems strict [] []
  | cons {i i' : Item} {before before' : List Item} (last : LikeItem strict i i')
      (like : LikeItems strict before before') : LikeItems strict (i :: before) (i' :: before')
  | letter {before before' : List Item} (free : ¬ strict) (like : LikeItems strict before before') :
      LikeItems strict (optionalParenthesis :: before) (single 'P'.toNat :: optionalParenthesis :: before')

/-- The width of items one behind the other. -/
def total (groups : List (Option Width)) (items : List Item) : Width :=
  (items.map (·.tree.width groups)).foldr Width.add .zero

theorem total_cons (groups : List (Option Width)) (i : Item) (before : List Item) :
    total groups (i :: before) = (i.tree.width groups).add (total groups before) := rfl

/-- The width of a sequence does not depend on the order in which it is put together. -/
theorem width_sequence (groups : List (Option Width)) (items : List Item) :
    (sequence items).width groups = total groups items := by
  have put (before : List Item) (tree : Tree) :
      (before.foldl (fun tree item => .seq item.tree tree) tree).width groups =
        (tree.width groups).add (total groups before) := by
    induction before generalizing tree with
    | nil => exact (Width.add_zero _).symm
    | cons i before ih =>
      rw [List.foldl_cons, ih, total_cons, Tree.width, Width.add_comm (i.tree.width groups), Width.add_assoc]
  cases items with
  | nil => rfl
  | cons last before => exact put before last.tree

namespace LikeItems

variable {is is' : List Item}

theorem eq (like : LikeItems strict is is') (sharp : strict) : is' = is := by
  induction like with
  | nil => rfl
  | cons last _ ih => rw [last.eq sharp, ih]
  | letter free => exact absurd sharp free

theorem isEmpty_eq (like : LikeItems strict is is') : is'.isEmpty = is.isEmpty := by
  cases like <;> rfl

theorem total {gs gs' : List (Option Width)} (like : LikeItems strict is is') (groups : LikeGroups strict gs gs') :
    Width.Like strict (Pattern.total gs is) (Pattern.total gs' is') := by
  induction like with
  | nil => exact .same Width.proper_zero
  | cons last _ ih =>
    rw [total_cons, total_cons]
    exact (last.tree.width groups).add ih
  | letter free _ ih =>
    have optional (gs : List (Option Width)) : (optionalParenthesis.tree.width gs).Loose := by
      intro n bound
      cases bound
      exact Nat.one_pos
    rw [total_cons, total_cons, total_cons, Width.add_comm ((single _).tree.width gs')]
    -- the letter makes no difference, as the optional parenthesis is in both
    exact .loose free ((optional gs).add ih.proper.1) (((optional gs').add ih.proper.2).add Width.proper_one)

theorem sequence (like : LikeItems strict is is') :
    LikeTree strict (Pattern.sequence is) (Pattern.sequence is') := by
  refine ⟨fun sharp => by rw [like.eq sharp], fun groups => ?_⟩
  rw [width_sequence, width_sequence]
  exact like.total groups

end LikeItems

end TickCircuit.Pattern

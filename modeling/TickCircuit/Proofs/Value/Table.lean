import TickCircuit.Proofs.Value.Key
import TickCircuit.Value.Table

/-!
# Laws of Tables

What can be found in a table after one of its operations. Keys are compared by
`Value.sameScalar`, so the laws are stated up to keys that are the same; a table is `Distinct` when
no key occurs twice in it.

Putting one table on top of another is a law of its own: it keeps the keys below in their places, and
it changes nothing where all these keys come first on top already (`merge_of_keys_prefix`).
-/

namespace TickCircuit.Table

variable {α β : Type} {t : Table α} {key : Value}

/-- No key occurs twice. -/
def Distinct (t : Table α) : Prop := t.Pairwise fun a b => a.1.sameScalar b.1 = false

/-- It takes only the keys to see it. -/
theorem distinct_iff_keys :
    t.Distinct ↔ t.keys.Pairwise fun a b => a.sameScalar b = false := by
  unfold Distinct keys
  rw [List.pairwise_map]

/-! ## §1 Looking Up -/

theorem mem_of_find? {v : α} (h : t.find? key = some v) :
    ∃ k, (k, v) ∈ t ∧ k.sameScalar key = true := by
  obtain ⟨⟨k, w⟩, found, rfl⟩ := Option.map_eq_some_iff.1 h
  have same := List.find?_some found
  exact ⟨k, List.mem_of_find?_eq_some found, same⟩

theorem isKey_of_find? {v : α} (h : t.find? key = some v) : key.isKey = true := by
  obtain ⟨k, -, same⟩ := mem_of_find? h
  exact Value.isKey_of_sameScalar ((Value.sameScalar_comm key k).trans same)

theorem contains_iff : t.contains key = true ↔ ∃ e ∈ t, e.1.sameScalar key = true := by
  simp [contains, find?]

theorem contains_eq_false_iff :
    t.contains key = false ↔ ∀ e ∈ t, e.1.sameScalar key = false := by
  simp [contains, find?]

theorem find?_cons (k : Value) (v : α) (t : Table α) :
    find? ((k, v) :: t) key = if k.sameScalar key then some v else t.find? key := by
  unfold find?
  rw [List.find?_cons]
  cases k.sameScalar key <;> rfl

theorem find?_congr {a b : Value} (h : a.sameScalar b = true) (t : Table α) :
    t.find? a = t.find? b := by
  unfold find?
  simp only [Value.sameScalar_congr_right h]

/-- Looking up commutes with a change of the values. -/
theorem find?_map (f : α → β) (t : Table α) (key : Value) :
    find? (t.map fun e => (e.1, f e.2)) key = (t.find? key).map f := by
  induction t with
  | nil => rfl
  | cons e rest ih =>
    obtain ⟨k, v⟩ := e
    rw [List.map_cons, find?_cons, find?_cons, ih]
    split <;> rfl

/-- Looking up does not tell keys of the same form from each other. -/
theorem find?_map_key {g : α → Value} (f : α → β) (same : ∀ e ∈ t, e.1.key? = (g e.2).key?)
    (key : Value) : find? (t.map fun e => (g e.2, f e.2)) key = (t.find? key).map f := by
  induction t with
  | nil => rfl
  | cons e rest ih =>
    obtain ⟨first, others⟩ := List.forall_mem_cons.1 same
    obtain ⟨k, v⟩ := e
    rw [List.map_cons, find?_cons, find?_cons, ih others, Value.sameScalar_congr_key? first]
    split <;> rfl

theorem contains_map (f : α → β) (t : Table α) (key : Value) :
    contains (t.map fun e => (e.1, f e.2)) key = t.contains key := by
  rw [contains, contains, find?_map, Option.isSome_map]

/-- What is found is not hidden by entries behind it. -/
theorem find?_append_of_find? {v : α} (h : t.find? key = some v) (more : Table α) :
    find? (t ++ more) key = some v := by
  unfold find? at h ⊢
  obtain ⟨e, found, rfl⟩ := Option.map_eq_some_iff.1 h
  rw [List.find?_append, found]
  rfl

/-- In a table without repetitions every entry is found under its key. -/
theorem find?_eq_some_iff (distinct : t.Distinct) {v : α} :
    t.find? key = some v ↔ ∃ k, (k, v) ∈ t ∧ k.sameScalar key = true := by
  refine ⟨mem_of_find?, ?_⟩
  rintro ⟨k, member, same⟩
  induction t with
  | nil => cases member
  | cons e rest ih =>
    obtain ⟨differs, others⟩ := List.pairwise_cons.1 distinct
    rw [find?_cons]
    rcases List.mem_cons.1 member with rfl | later
    · rw [if_pos same]
    · -- the first entry has another key than the one that is looked for
      have apart : e.1.sameScalar key = false := by
        rw [← Value.sameScalar_congr_right same]
        exact differs (k, v) later
      rw [if_neg (by rw [apart]; exact Bool.false_ne_true)]
      exact ih others later

theorem Distinct.perm {t' : Table α} (distinct : t.Distinct) (perm : t'.Perm t) : t'.Distinct := by
  refine (perm.pairwise_iff fun {a b} h => ?_).2 distinct
  rw [Value.sameScalar_comm, h]

/-- The order of the entries does not matter to what is found. -/
theorem find?_perm {t' : Table α} (distinct : t.Distinct) (perm : t'.Perm t) (key : Value) :
    t'.find? key = t.find? key := by
  apply Option.ext
  intro v
  rw [find?_eq_some_iff distinct, find?_eq_some_iff (distinct.perm perm)]
  simp only [perm.mem_iff]

/-! ## §2 Changing -/

/-- A new key is put behind all others. -/
theorem insert_of_not_contains (v : α) (h : t.contains key = false) :
    t.insert key v = t ++ [(key, v)] := by
  induction t with
  | nil => rfl
  | cons e rest ih =>
    rw [contains_eq_false_iff, List.forall_mem_cons] at h
    rw [insert, h.1, ih (contains_eq_false_iff.2 h.2)]
    rfl

/-- An entry after an insertion is an old one, or the new value under its key. -/
theorem mem_insert {v : α} {e : Value × α} (h : e ∈ t.insert key v) :
    e ∈ t ∨ e.2 = v ∧ e.1.key? = key.key? := by
  induction t with
  | nil =>
    rw [List.mem_singleton.1 h]
    exact .inr ⟨rfl, rfl⟩
  | cons d rest ih =>
    obtain ⟨k, w⟩ := d
    rw [insert] at h
    split at h
    · next same =>
      rcases List.mem_cons.1 h with rfl | h
      · obtain ⟨form, left, right⟩ := Value.sameScalar_iff.1 same
        exact .inr ⟨rfl, left.trans right.symm⟩
      · exact .inl (List.mem_cons_of_mem _ h)
    · rcases List.mem_cons.1 h with rfl | h
      · exact .inl List.mem_cons_self
      · exact (ih h).imp_left (List.mem_cons_of_mem _)

theorem Distinct.append_one (distinct : t.Distinct) (v : α) (h : t.contains key = false) :
    Distinct (t ++ [(key, v)]) := by
  refine List.pairwise_append.2 ⟨distinct, List.pairwise_singleton _ _, ?_⟩
  intro a ha b hb
  rw [List.mem_singleton.1 hb]
  exact contains_eq_false_iff.1 h a ha

theorem erase_sublist (t : Table α) (key : Value) : (t.erase key).Sublist t := by
  induction t with
  | nil => exact List.Sublist.slnil
  | cons e rest ih =>
    rw [erase]
    split
    · exact List.sublist_cons_self e rest
    · exact ih.cons_cons e

theorem map_erase (f : α → β) (t : Table α) (key : Value) :
    (t.erase key).map (fun e => (e.1, f e.2)) = erase (t.map fun e => (e.1, f e.2)) key := by
  induction t with
  | nil => rfl
  | cons e rest ih =>
    obtain ⟨k, v⟩ := e
    rw [List.map_cons, erase, erase]
    split
    · rfl
    · rw [List.map_cons, ih]

/-- Other keys are found as before. -/
theorem find?_erase {other : Value} (h : other.sameScalar key = false) (t : Table α) :
    find? (t.erase key) other = t.find? other := by
  induction t with
  | nil => rfl
  | cons e rest ih =>
    obtain ⟨k, v⟩ := e
    rw [erase]
    split
    · next same =>
      -- the entry that goes away has the form of `key`, so it is not the one looked for
      have differs : k.sameScalar other = false := by
        rw [Value.sameScalar_congr_left same, Value.sameScalar_comm, h]
      rw [find?_cons, differs]
      rfl
    · rw [find?_cons, find?_cons, ih]

/-- The key that was taken away is not found any more. -/
theorem contains_erase {other : Value} (distinct : t.Distinct) (same : other.sameScalar key = true) :
    (t.erase key).contains other = false := by
  induction t with
  | nil => rfl
  | cons e rest ih =>
    obtain ⟨k, v⟩ := e
    obtain ⟨differs, others⟩ := List.pairwise_cons.1 distinct
    rw [erase]
    split
    · next first =>
      -- the entries behind have other keys than the one that went away
      refine contains_eq_false_iff.2 fun e he => ?_
      rw [Value.sameScalar_congr_right same, Value.sameScalar_comm, ← Value.sameScalar_congr_left first]
      exact differs e he
    · next apart =>
      have apart' : k.sameScalar other = false := by
        rw [Value.sameScalar_congr_right same]
        exact Bool.eq_false_iff.2 apart
      rw [contains, find?_cons, apart']
      exact ih others

/-- A view of the values that does not tell a new value from the old one is not changed by putting
the new one in its place. -/
theorem map_modify_const {old new : α} {f : α → β} (found : t.find? key = some old)
    (alike : f new = f old) :
    (t.modify key fun _ => new).map (fun e => (e.1, f e.2)) = t.map fun e => (e.1, f e.2) := by
  induction t with
  | nil => rfl
  | cons e rest ih =>
    obtain ⟨k, v⟩ := e
    rw [find?_cons] at found
    rw [modify]
    split at found
    · next same =>
      cases found
      rw [if_pos same, List.map_cons, List.map_cons, alike]
    · next differs =>
      rw [if_neg differs, List.map_cons, List.map_cons, ih found]

/-- Another value under a key that is there takes the place of the old one, and the entries in front and
behind stay. -/
theorem exists_modify_const {old : α} (found : t.find? key = some old) (new : α) :
    ∃ front k behind, t = front ++ (k, old) :: behind ∧
      (t.modify key fun _ => new) = front ++ (k, new) :: behind ∧
      find? (t.modify key fun _ => new) key = some new := by
  induction t with
  | nil => cases found
  | cons e rest ih =>
    obtain ⟨k, v⟩ := e
    rw [find?_cons] at found
    rw [modify]
    split at found
    · next same =>
      cases found
      rw [if_pos same, find?_cons, if_pos same]
      exact ⟨[], k, rest, rfl, rfl, rfl⟩
    · next differs =>
      obtain ⟨front, k', behind, split, modified, there⟩ := ih found
      rw [if_neg differs, find?_cons, if_neg differs]
      exact ⟨(k, v) :: front, k', behind, by rw [split]; rfl, by rw [modified]; rfl, there⟩

/-! ## §3 Merging -/

theorem merge_cons (base : Table α) (k : Value) (v : α) (rest : Table α) :
    base.merge ((k, v) :: rest) = (base.insert k v).merge rest := rfl

/-- Storing keeps the keys that are there, and puts a new one behind them. -/
theorem keys_insert (t : Table α) (key : Value) (v : α) :
    (t.insert key v).keys = if t.contains key then t.keys else t.keys ++ [key] := by
  induction t with
  | nil => simp [insert, keys, contains, find?]
  | cons e rest ih =>
    obtain ⟨k, w⟩ := e
    rw [insert, contains, find?_cons]
    split
    · simp [keys]
    · rw [← contains]
      simp only [keys, List.map_cons] at ih ⊢
      rw [ih]
      split <;> simp

theorem keys_prefix_insert (t : Table α) (key : Value) (v : α) :
    t.keys <+: (t.insert key v).keys := by
  rw [keys_insert]
  split
  · exact List.prefix_rfl
  · exact List.prefix_append _ _

theorem Distinct.insert (distinct : t.Distinct) (key : Value) (v : α) :
    (t.insert key v).Distinct := by
  cases there : t.contains key with
  | true =>
    rw [distinct_iff_keys, keys_insert, if_pos there]
    exact distinct_iff_keys.1 distinct
  | false =>
    rw [insert_of_not_contains v there]
    exact distinct.append_one v there

theorem keys_prefix_merge (base upper : Table α) : base.keys <+: (base.merge upper).keys := by
  induction upper generalizing base with
  | nil => exact List.prefix_rfl
  | cons e rest ih => exact (keys_prefix_insert base e.1 e.2).trans (ih _)

theorem Distinct.merge {base : Table α} (distinct : base.Distinct) (upper : Table α) :
    (base.merge upper).Distinct := by
  induction upper generalizing base with
  | nil => exact distinct
  | cons e rest ih => exact ih (distinct.insert e.1 e.2)

/-- The value stored last is the one that is found. -/
theorem find?_insert (t : Table α) (k : Value) (v : α) (key : Value) :
    find? (t.insert k v) key = if k.sameScalar key then some v else t.find? key := by
  induction t with
  | nil => rw [insert, find?_cons]
  | cons e rest ih =>
    obtain ⟨k', w⟩ := e
    rw [insert]
    split
    · next same =>
      -- the entry keeps its own form of the key, which is the same key
      rw [find?_cons, find?_cons, Value.sameScalar_congr_left same]
      split <;> rfl
    · next differs =>
      rw [find?_cons, find?_cons, ih]
      by_cases here : k.sameScalar key = true
      · have apart : k'.sameScalar key = false := by
          rw [← Value.sameScalar_congr_right here]
          exact Bool.eq_false_iff.2 differs
        simp [here, apart]
      · simp [here]

/-- Storing a value hides no key. -/
theorem contains_insert {k key : Value} {v : α} (h : t.contains key = true) :
    Table.contains (t.insert k v) key = true := by
  rw [contains, find?_insert]
  split
  · rfl
  · exact h

/-- What is put on top is found before what lies below. -/
theorem find?_merge (base : Table α) {upper : Table α} (distinct : upper.Distinct) (key : Value) :
    find? (base.merge upper) key = (upper.find? key).or (base.find? key) := by
  induction upper generalizing base with
  | nil => rfl
  | cons e rest ih =>
    obtain ⟨k, v⟩ := e
    obtain ⟨differs, others⟩ := List.pairwise_cons.1 distinct
    rw [merge_cons, ih _ others, find?_insert, find?_cons]
    split
    · next same =>
      -- no later entry has the key again
      have last : find? rest key = none := by
        have missing : contains rest key = false := by
          apply contains_eq_false_iff.2
          intro e he
          rw [← Value.sameScalar_congr_right same, Value.sameScalar_comm]
          exact differs e he
        simpa [contains] using missing
      rw [last]
      rfl
    · rfl

/-- Storing under a key goes past a table without it. -/
theorem insert_append {front : Table α} (missing : front.contains key = false) (t : Table α)
    (v : α) : insert (front ++ t) key v = front ++ t.insert key v := by
  induction front with
  | nil => rfl
  | cons e rest ih =>
    rw [contains_eq_false_iff, List.forall_mem_cons] at missing
    rw [List.cons_append, insert, missing.1, ih (contains_eq_false_iff.2 missing.2)]
    rfl

/-- A table that already begins with all keys of the one below hides it. -/
theorem merge_of_keys_prefix {base upper : Table α} (distinct : upper.Distinct)
    (keyed : ∀ k ∈ base.keys, k.sameScalar k = true) (first : base.keys <+: upper.keys) :
    base.merge upper = upper := by
  -- in front of the entries that are still to be replaced stand those that have been
  suffices h : ∀ (done rest below : Table α), Distinct (done ++ rest) →
      (∀ k ∈ below.keys, k.sameScalar k = true) → below.keys <+: rest.keys →
      merge (done ++ below) rest = done ++ rest from h [] upper base distinct keyed first
  intro done rest
  induction rest generalizing done with
  | nil =>
    intro below _ _ none
    have : below = [] := by simpa [keys] using none
    rw [this]
    rfl
  | cons e rest ih =>
    obtain ⟨k, v⟩ := e
    intro below differ keyed first
    have missing : done.contains k = false := by
      apply contains_eq_false_iff.2
      intro e he
      exact (List.pairwise_append.1 differ).2.2 e he (k, v) List.mem_cons_self
    have differ' : Distinct ((done ++ [(k, v)]) ++ rest) := by simpa using differ
    rw [merge_cons, insert_append missing]
    cases below with
    | nil => simpa [insert] using ih (done ++ [(k, v)]) [] differ' (by simp [keys]) (by simp [keys])
    | cons e' below =>
      obtain ⟨k', w⟩ := e'
      simp only [keys, List.map_cons, List.cons_prefix_cons] at first
      obtain ⟨rfl, first⟩ := first
      obtain ⟨self, keyed⟩ := List.forall_mem_cons.1 keyed
      rw [insert, if_pos self]
      simpa using ih (done ++ [(k', v)]) below differ' keyed first

end TickCircuit.Table

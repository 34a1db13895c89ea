import Mathlib.Data.List.Perm.Subperm
import Std.Data.String.ToInt
import TickCircuit.Circuit.Basic
import TickCircuit.Proofs.Outcome
import TickCircuit.Proofs.Value.Table

/-!
# Made Ids Are Free

An id is made from a stem and a count. Different counts make different ids, so of one count more than
there are ids in use some count makes a free one: the search for an id ends, and the id that it ends
with is free (`countOn_free`). This holds as long as the counter is a whole number. The counters of a
circuit are natural numbers unless a file says otherwise (`Counted`).

A counter that is an infinity stands still, and so does every large enough `Float`. A search that
starts there and meets a taken id has no end, however much fuel there is (`countOn_of_still`).
-/

namespace TickCircuit

/-- The id with a stem and a count. -/
def numbered (stem : String) (n : Int) : Value := .text (stem ++ toString n)

theorem numbered_injective {stem : String} {m n : Int} (h : numbered stem m = numbered stem n) :
    m = n :=
  Int.repr_injective ((String.append_right_inj stem).1 (Value.text.inj h))

namespace Circuit

/-! ## §1 Counting On -/

section Counting

variable (isFree : Value → Bool) {count : Value} {n : Int}

theorem nextCount_whole (whole : count.number? = some (.int n)) :
    nextCount count = .ok (.int (n + 1)) := by
  rw [nextCount, whole]
  rfl

/-- Counting on ends at a count that is free, unless all counts that it can try are taken. -/
theorem countOn_spec (fuel : Nat) (whole : count.number? = some (.int n)) :
    (∃ m : Int, countOn isFree fuel count = .ok (.int m) ∧ n < m ∧ isFree (.int m) = true) ∨
      ∀ j : Int, n < j → j ≤ n + fuel → isFree (.int j) = false := by
  -- the count is generalised: each round starts from the count of the round before
  induction fuel generalizing count n with
  | zero =>
    right
    intro j above below
    omega
  | succ fuel ih =>
    have step : countOn isFree (fuel + 1) count =
        if isFree (.int (n + 1)) then .ok (.int (n + 1))
        else countOn isFree fuel (.int (n + 1)) := by
      rw [countOn, nextCount_whole whole]
      rfl
    rw [step]
    split
    · next free => exact .inl ⟨n + 1, rfl, by omega, free⟩
    · next taken =>
      rcases @ih (.int (n + 1)) (n + 1) rfl with ⟨m, counted, above, free⟩ | passed
      · exact .inl ⟨m, counted, by omega, free⟩
      · right
        intro j low high
        by_cases first : j = n + 1
        · rw [first]
          exact Bool.eq_false_iff.2 taken
        · exact passed j (by omega) (by omega)

/-- With more fuel than there are ids in use, counting on ends at a free id. -/
theorem countOn_free {stem : String} {taken : List Value}
    (h : ∀ j : Int, isFree (.int j) = false → numbered stem j ∈ taken)
    (whole : count.number? = some (.int n)) :
    ∃ m : Int, countOn isFree (taken.length + 1) count = .ok (.int m) ∧ n < m ∧
      isFree (.int m) = true := by
  rcases countOn_spec isFree (taken.length + 1) whole with found | passed
  · exact found
  · exfalso
    -- otherwise more ids than there are in use would all be in use
    let tried : List Value :=
      (List.range (taken.length + 1)).map fun i : Nat => numbered stem (n + 1 + i)
    have different : tried.Nodup := by
      refine List.nodup_range.map fun i j same => ?_
      have := numbered_injective same
      omega
    have inUse : tried ⊆ taken := by
      intro id member
      obtain ⟨i, hi, rfl⟩ := List.mem_map.1 member
      have bound := List.mem_range.1 hi
      apply h
      exact passed (n + 1 + i) (by omega) (by omega)
    have many := (List.subperm_of_subset different inUse).length_le
    simp only [tried, List.length_map, List.length_range] at many
    omega

/-- A search from a counter that stands still, at a taken id, does not end. -/
theorem countOn_of_still (still : nextCount count = .ok count) (taken : isFree count = false)
    (fuel : Nat) : countOn isFree fuel count = .error .endless := by
  induction fuel with
  | zero => rfl
  | succ fuel ih =>
    rw [countOn, still]
    simp only [bind, Except.bind, taken]
    exact ih

end Counting

/-! ## §2 Counters -/

/-- The counters are natural numbers. -/
structure Counted (c : Circuit) : Prop where
  types : ∃ es : Record, c.counters = .object es ∧ ∀ e ∈ es, ∃ n : Nat, e.2 = .int n
  wires : ∃ n : Nat, c.wireCounter = .int n

theorem Counted.counterOf {c : Circuit} (h : c.Counted) {type : Value} (key : type.isKey = true) :
    ∃ n : Nat, c.counterOf type = .ok (.int n) := by
  obtain ⟨es, hes, naturals⟩ := h.types
  unfold Circuit.counterOf
  rw [hes]
  simp only [Value.asKey_of_isKey key, bind, Except.bind]
  cases found : Table.find? es type with
  | none => exact ⟨0, rfl⟩
  | some v =>
    obtain ⟨k, member, -⟩ := Table.mem_of_find? found
    obtain ⟨n, rfl⟩ := naturals _ member
    exact ⟨n, rfl⟩

theorem forall_mem_insert {α : Type} {p : α → Prop} {t : Table α} (key : Value) {v : α}
    (ht : ∀ e ∈ t, p e.2) (hv : p v) : ∀ e ∈ t.insert key v, p e.2 := by
  induction t with
  | nil => simpa [Table.insert] using hv
  | cons e rest ih =>
    obtain ⟨k, w⟩ := e
    obtain ⟨first, others⟩ := List.forall_mem_cons.1 ht
    rw [Table.insert]
    split
    · exact List.forall_mem_cons.2 ⟨hv, others⟩
    · exact List.forall_mem_cons.2 ⟨first, ih others⟩

/-- Counters stay natural numbers when one of them is set to a natural number. -/
theorem Counted.setCounter {c : Circuit} (h : c.Counted) (type : Value) (n : Nat) :
    Counted { c with counters := Circuit.setCounter c.counters type (.int n) } := by
  obtain ⟨es, hes, naturals⟩ := h.types
  refine ⟨⟨es.insert type (.int n), ?_, ?_⟩, h.wires⟩
  · change Circuit.setCounter c.counters type (.int n) = _
    rw [hes]
    rfl
  · exact forall_mem_insert (p := fun v => ∃ n : Nat, v = Value.int n) type naturals ⟨n, rfl⟩

/-! ## §3 Ids -/

/-- A made id of a component is free, and its count lies above the counter. -/
theorem nextComponentId_whole {c : Circuit} {name : String} {count : Value} {n : Int}
    (counter : c.counterOf (.text name) = .ok count) (whole : count.number? = some (.int n)) :
    ∃ m : Int, n < m ∧
      c.nextComponentId (.text name) = .ok (numbered name m,
        { c with counters := setCounter c.counters (.text name) (.int m) }) ∧
      c.components.contains (numbered name m) = false := by
  have taken (j : Int) (h : (!c.components.contains (numbered name j)) = false) :
      numbered name j ∈ c.components.map Prod.fst := by
    obtain ⟨e, member, same⟩ := Table.contains_iff.1 (by simpa using h)
    have key : e.1 = numbered name j := Value.sameScalar_text.1 same
    exact key ▸ List.mem_map_of_mem member
  obtain ⟨m, counted, above, free⟩ := countOn_free
    (fun count => !c.components.contains (.text (name ++ count.display))) taken whole
  change (!c.components.contains (numbered name m)) = true at free
  rw [List.length_map] at counted
  refine ⟨m, above, ?_, by simpa using free⟩
  unfold nextComponentId
  simp only [counter, bind, Except.bind]
  rw [show (Value.text name).display = name from rfl, counted]
  rfl

theorem nextComponentId_spec {c : Circuit} (counted : c.Counted) (name : String) :
    ∃ before after : Nat, c.counterOf (.text name) = .ok (.int before) ∧ before < after ∧
      c.nextComponentId (.text name) = .ok (numbered name after,
        { c with counters := setCounter c.counters (.text name) (.int after) }) ∧
      c.components.contains (numbered name after) = false := by
  obtain ⟨before, counter⟩ := counted.counterOf (Value.isKey_text name)
  obtain ⟨m, above, made, free⟩ := nextComponentId_whole counter (n := before) rfl
  obtain ⟨after, rfl⟩ := Int.eq_ofNat_of_zero_le (show 0 ≤ m by omega)
  exact ⟨before, after, counter, by omega, made, free⟩

/-- A made id of a wire is free, and its count lies above the counter. -/
theorem nextWireId_whole {c : Circuit} {n : Int} (whole : c.wireCounter.number? = some (.int n))
    (keys : ∀ w ∈ c.wires, w.id.isKey = true) :
    ∃ m : Int, n < m ∧ c.nextWireId = .ok (numbered "W" m, { c with wireCounter := .int m }) ∧
      ∀ w ∈ c.wires, w.id ≠ numbered "W" m := by
  have ids : c.wires.mapM (·.id.asKey) = .ok (c.wires.map (·.id)) :=
    Outcome.mapM_ok fun w hw => Value.asKey_of_isKey (keys w hw)
  have same_iff {w : Wire} (hw : w ∈ c.wires) (m : Int) :
      w.id.same (numbered "W" m) = true ↔ w.id = numbered "W" m := by
    rw [Value.same_eq_sameScalar (keys w hw)]
    exact Value.sameScalar_text
  -- a count that is passed over belongs to some wire, so the search comes to an end
  have taken (j : Int) (h : (!(c.wires.map (·.id)).any (·.same (numbered "W" j))) = false) :
      numbered "W" j ∈ c.wires.map (·.id) := by
    simp only [Bool.not_eq_false', List.any_map, List.any_eq_true] at h
    obtain ⟨w, hw, same⟩ := h
    have id : w.id = numbered "W" j := (same_iff hw j).1 same
    exact id ▸ List.mem_map_of_mem hw
  obtain ⟨m, counted, above, free⟩ := countOn_free (fun count =>
    !(c.wires.map (·.id)).any (·.same (.text ("W" ++ count.display)))) taken whole
  change (!(c.wires.map (·.id)).any (·.same (numbered "W" m))) = true at free
  rw [List.length_map] at counted
  refine ⟨m, above, ?_, ?_⟩
  · unfold nextWireId
    simp only [ids, bind, Except.bind]
    rw [counted]
    rfl
  · intro w hw same
    simp only [Bool.not_eq_true', List.any_map, List.any_eq_false] at free
    exact free w hw ((same_iff hw m).2 same)

theorem nextWireId_spec {c : Circuit} (counted : c.Counted)
    (texts : ∀ w ∈ c.wires, w.id.IsText) :
    ∃ before after : Nat, c.wireCounter = .int before ∧ before < after ∧
      c.nextWireId = .ok (numbered "W" after, { c with wireCounter := .int after }) ∧
      ∀ w ∈ c.wires, w.id ≠ numbered "W" after := by
  obtain ⟨before, counter⟩ := counted.wires
  have keys : ∀ w ∈ c.wires, w.id.isKey = true := by
    intro w hw
    obtain ⟨s, hs⟩ := texts w hw
    rw [hs, Value.isKey_text]
  obtain ⟨m, above, made, free⟩ := nextWireId_whole (n := before) (by rw [counter]; rfl) keys
  obtain ⟨after, rfl⟩ := Int.eq_ofNat_of_zero_le (show 0 ≤ m by omega)
  exact ⟨before, after, counter, by omega, made, free⟩

end Circuit

end TickCircuit

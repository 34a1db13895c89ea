import TickCircuit.Proofs.Circuit.Edits

/-!
# Searches for Ids

An id is searched for by counting on until a free one is met. The search knows no limit, and the
computation that stands for it has fuel; what the computation finds is where the search ends
(`countsTo_of_countOn`), so a search whose computation succeeds ends (`nextComponentId_ends`,
`nextWireId_ends`).

An id can be made twice only if a counter goes back. No edit sets a counter back but clearing
(`Edit.onward`), and the name of a kind cannot be continued by digits to that of another
(`numbered_name_injective`). So an id that a counter has passed lies behind for good
(`Circuit.AheadOfComponents`, `Circuit.AheadOfWires`).
-/

namespace TickCircuit

/-! ## §1 Names with Numbers -/

theorem Kind.isDigit_of_mem_name (kind : Kind) : ∀ ch ∈ kind.name.toList, ch.isDigit = false := by
  have letters : kind.name.toList.all (!·.isDigit) = true := by cases kind <;> rfl
  simpa using letters

/-- A natural number is written with digits. -/
theorem exists_digits (n : Nat) :
    ∃ d ds, (toString (n : Int)).toList = d :: ds ∧ d.isDigit = true := by
  have written : (toString (n : Int)).toList = Nat.toDigits 10 n := Nat.toList_repr
  cases digits : Nat.toDigits 10 n with
  | nil => exact absurd digits Nat.toDigits_ne_nil
  | cons d ds =>
    refine ⟨d, ds, written.trans digits, ?_⟩
    exact Nat.isDigit_of_mem_toDigits (by decide) (Nat.le_refl 10) (digits ▸ List.mem_cons_self)

/-- An id that is made for a component tells its kind and its count. -/
theorem numbered_name_injective {kind other : Kind} {m n : Nat}
    (same : numbered kind.name m = numbered other.name n) : kind = other ∧ m = n := by
  -- what stands before the first digit is the name of the kind
  have stem (kind : Kind) (n : Nat) :
      (kind.name ++ toString (n : Int)).toList.takeWhile (!·.isDigit) = kind.name.toList := by
    obtain ⟨d, ds, written, digit⟩ := exists_digits n
    rw [String.toList_append, written, List.takeWhile_append_of_pos]
    · simp [digit]
    · simpa using kind.isDigit_of_mem_name
  have texts : kind.name ++ toString (m : Int) = other.name ++ toString (n : Int) := Value.text.inj same
  have names : kind.name = other.name := by
    apply String.toList_inj.1
    rw [← stem kind m, ← stem other n, texts]
  obtain rfl : kind = other := by
    apply Option.some.inj
    rw [← Kind.ofName?_name kind, ← Kind.ofName?_name other, names]
  exact ⟨rfl, by exact_mod_cast numbered_injective same⟩

namespace Circuit

/-! ## §2 Where Searches End -/

/-- Counting on from one count comes to another, the first that is free. -/
inductive CountsTo (isFree : Value → Bool) : Value → Value → Prop where
  | here {count next : Value} (counted : nextCount count = .ok next) (free : isFree next = true) :
      CountsTo isFree count next
  | further {count next last : Value} (counted : nextCount count = .ok next)
      (taken : isFree next = false) (rest : CountsTo isFree next last) : CountsTo isFree count last

/-- What is found with some fuel is found by counting on without a limit. -/
theorem countsTo_of_countOn {isFree : Value → Bool} {fuel : Nat} {count last : Value}
    (found : countOn isFree fuel count = .ok last) : CountsTo isFree count last := by
  induction fuel generalizing count with
  | zero => cases found
  | succ fuel ih =>
    obtain ⟨next, counted, found⟩ := Outcome.bind_eq_ok.1 found
    split at found
    · next free =>
      cases found
      exact .here counted free
    · next taken => exact .further counted (Bool.eq_false_iff.2 taken) (ih found)

/-- The search for an id with a stem, from a counter on, ends at the id. -/
def SearchEnds (stem : String) (isFree : Value → Bool) (counter id : Value) : Prop :=
  ∃ count, CountsTo (fun count => isFree (.text (stem ++ count.display))) counter count ∧
    id = .text (stem ++ count.display)

variable {c c' : Circuit} {id : Value}

/-- The id of a component is where the search for it ends. -/
theorem nextComponentId_ends {name : String} (made : c.nextComponentId (.text name) = .ok (id, c')) :
    ∃ counter, c.counterOf (.text name) = .ok counter ∧
      SearchEnds name (fun id => !c.components.contains id) counter id := by
  obtain ⟨counter, found, made⟩ := Outcome.bind_eq_ok.1 made
  obtain ⟨count, counted, made⟩ := Outcome.bind_eq_ok.1 made
  cases made
  exact ⟨counter, found, count, countsTo_of_countOn counted, rfl⟩

theorem nextWireId_ends (made : c.nextWireId = .ok (id, c')) :
    SearchEnds "W" (fun id => !c.wires.any (·.id.same id)) c.wireCounter id := by
  obtain ⟨taken, listed, made⟩ := Outcome.bind_eq_ok.1 made
  obtain ⟨count, counted, made⟩ := Outcome.bind_eq_ok.1 made
  cases made
  have ids : c.wires.map (·.id) = taken := by
    rw [← List.forall₂_eq_eq_eq, List.forall₂_map_left_iff]
    exact (Outcome.mapM_eq_ok_iff.1 listed).imp fun _ _ key => (Value.isKey_of_asKey key).2.symm
  refine ⟨count, ?_, rfl⟩
  have search := countsTo_of_countOn counted
  simpa only [← ids, List.any_map, Function.comp_def] using search

/-! ## §3 Counters Go Onward -/

/-- The counters of the components are as before or one has counted on, and so is that of the wires. -/
structure Onward (c c' : Circuit) : Prop where
  counters : c.Counts c'.counters
  wireCounter : c'.wireCounter = c.wireCounter ∨ ∃ before after : Nat,
    c.wireCounter = .int before ∧ before < after ∧ c'.wireCounter = .int after

theorem SamePlan.onward (h : c.SamePlan c') : c.Onward c' := ⟨.inl h.counters, .inl h.wireCounter⟩

theorem counterOf_congr (same : c'.counters = c.counters) (type : Value) :
    c'.counterOf type = c.counterOf type := by
  unfold counterOf
  rw [same]

/-- A counter that is set counts from there. -/
theorem counterOf_setCounter (h : c.Counted) {type count : Value}
    (set : c'.counters = setCounter c.counters type count) (name : String) :
    c'.counterOf (.text name) =
      if type.sameScalar (.text name) then .ok count else c.counterOf (.text name) := by
  obtain ⟨es, counters, -⟩ := h.types
  unfold counterOf
  rw [set, counters]
  show Except.ok ((Table.find? (es.insert type count) (.text name)).getD (.int 0)) = _
  rw [Table.find?_insert]
  split <;> rfl

/-- A counter that has gone onward is no less than before. -/
theorem Onward.counterOf (h : c.Onward c') (counted : c.Counted) (name : String) :
    ∃ before after : Nat, c.counterOf (.text name) = .ok (.int before) ∧ before ≤ after ∧
      c'.counterOf (.text name) = .ok (.int after) := by
  obtain ⟨before, counter⟩ := counted.counterOf (Value.isKey_text name)
  rcases h.counters with same | ⟨type, low, high, counter', above, set⟩
  · exact ⟨before, before, counter, Nat.le_refl _, by rw [counterOf_congr same, counter]⟩
  · have reads := counterOf_setCounter counted set name
    split at reads
    · next here =>
      obtain rfl := Value.sameScalar_text.1 here
      exact ⟨low, high, counter', Nat.le_of_lt above, reads⟩
    · exact ⟨before, before, counter, Nat.le_refl _, reads.trans counter⟩

/-- The id of a component that its counter has still to come to. -/
def AheadOfComponents (c : Circuit) (id : Value) : Prop :=
  ∃ (kind : Kind) (counter n : Nat), id = numbered kind.name n ∧
    c.counterOf (.text kind.name) = .ok (.int counter) ∧ counter < n

def AheadOfWires (c : Circuit) (id : Value) : Prop :=
  ∃ counter n : Nat, id = numbered "W" n ∧ c.wireCounter = .int counter ∧ counter < n

/-- What lies ahead when the counters have gone onward has been ahead before. -/
theorem Onward.aheadOfComponents (h : c.Onward c') (counted : c.Counted)
    (ahead : c'.AheadOfComponents id) : c.AheadOfComponents id := by
  obtain ⟨kind, counter, n, isMade, reads, above⟩ := ahead
  obtain ⟨before, after, counter', onward, reads'⟩ := h.counterOf counted kind.name
  rw [reads] at reads'
  cases reads'
  exact ⟨kind, before, n, isMade, counter', by omega⟩

theorem Onward.aheadOfWires (h : c.Onward c') (ahead : c'.AheadOfWires id) : c.AheadOfWires id := by
  obtain ⟨counter, n, isMade, reads, above⟩ := ahead
  rcases h.wireCounter with same | ⟨before, after, counter', onward, reads'⟩
  · exact ⟨counter, n, isMade, by rw [← same, reads], above⟩
  · rw [reads] at reads'
    cases reads'
    exact ⟨before, n, isMade, counter', by omega⟩

/-- Making an id for a component counts on the counter of its kind, and no other. -/
theorem nextComponentId_counts (h : c.Counted) {kind : Kind}
    (made : c.nextComponentId (.text kind.name) = .ok (id, c')) :
    c.Counts c'.counters ∧ c'.wireCounter = c.wireCounter := by
  obtain ⟨before, after, counter, above, isMade, -⟩ := nextComponentId_spec h kind.name
  rw [isMade] at made
  cases made
  exact ⟨.inr ⟨_, before, after, counter, above, rfl⟩, rfl⟩

end Circuit

/-- **Counters**: no edit but clearing sets a counter back. -/
theorem Edit.onward {c : Circuit} (h : c.Integral) {edit : Edit} (keeps : edit ≠ .clear) :
    c.Onward (edit.apply c).circuit := by
  have ends := edit.ends c
  generalize edit.apply c = edited at ends ⊢
  have replaced (replaces : edit.replaces = true) : c.Onward edited.circuit := (ends.samePlan replaces).onward
  -- an id that is made counts on even when the component cannot be created
  cases ends with
  | failed | ignored | named | removed | disconnected => exact ⟨.inl rfl, .inl rfl⟩
  | unmade made | numbered made =>
    obtain ⟨counts, same⟩ := Circuit.nextComponentId_counts h.counted made
    exact ⟨counts, .inl same⟩
  | unsettled | resettled | valued | pressed => exact replaced rfl
  | connected _ _ _ _ made =>
    obtain ⟨before, after, counter, above, isMade, -⟩ := Circuit.nextWireId_spec h.counted h.named
    rw [isMade] at made
    cases made
    exact ⟨.inl rfl, .inr ⟨before, after, counter, above, rfl⟩⟩
  | cleared => exact absurd rfl keeps

end TickCircuit

import TickCircuit.Proofs.Component.Windows

/-!
# Limits of Histories

A limit can be put in force when it can be a capacity, that is, when it is not negative and within 64 bits.
A limit that cannot is refused, and yet it is recorded, since that is done before the capacity is tried: the
capacity and the samples are as before, but the limit is the refused one, and asking for it once more is found
to ask for nothing new (`setLimit_of_refused`). So a change of the limit is all or nothing exactly when the
limit can be a capacity (`allOrNothing_iff`).

After any calls the limit is the one that was asked for last, and the capacity is the one that was granted
last (`stands_performAll`). The two agree exactly when the limit that was asked for last could be granted
(`limits_hold`).
-/

namespace TickCircuit.History

/-! ## §1 Asking for a Limit -/

/-- The limit can be a capacity. -/
def Grantable (limit : Int) : Prop := 0 ≤ limit ∧ limit < 2 ^ 63

instance : DecidablePred Grantable := fun limit =>
  inferInstanceAs (Decidable (0 ≤ limit ∧ limit < 2 ^ 63))

/-- The fault in which a limit ends that cannot be a capacity. -/
def Refuses (limit : Int) (fault : Fault) : Prop :=
  (fault = .negativeLimit ∧ -2 ^ 63 ≤ limit ∧ limit < 0) ∨
    fault = .hugeLimit ∧ (limit < -2 ^ 63 ∨ 2 ^ 63 ≤ limit)

variable {h : History} {limit asked granted : Int}

theorem capacity?_of_grantable (grantable : Grantable limit) : capacity? limit = .ok limit.toNat := by
  obtain ⟨nonneg, within⟩ := grantable
  unfold capacity?
  rw [if_neg (by simp; omega), if_neg (by omega)]

theorem capacity?_of_not_grantable (refused : ¬ Grantable limit) :
    ∃ fault, capacity? limit = .error fault ∧ Refuses limit fault := by
  unfold Grantable at refused
  unfold capacity?
  by_cases huge : limit < -2 ^ 63 ∨ 2 ^ 63 ≤ limit
  · rw [if_pos (by simpa using huge)]
    exact ⟨_, rfl, .inr ⟨rfl, huge⟩⟩
  · rw [if_neg (by simpa using huge), if_pos (by omega)]
    exact ⟨_, rfl, .inl ⟨rfl, by omega, by omega⟩⟩

/-- A limit that is recorded already changes nothing. -/
theorem setLimit_self (h : History) : h.setLimit h.limit = (.ok (), h) := by
  unfold setLimit
  rw [if_pos (beq_self_eq_true _)]

theorem setLimit_of_grantable (new : limit ≠ h.limit) (grantable : Grantable limit) :
    h.setLimit limit = (.ok (), ⟨limit, limit.toNat, newest limit.toNat h.samples⟩) := by
  unfold setLimit
  rw [if_neg (by simpa using new), capacity?_of_grantable grantable]

/-- A limit that is refused is recorded, and asking for it once more does nothing. -/
theorem setLimit_of_refused (new : limit ≠ h.limit) (refused : ¬ Grantable limit) :
    (∃ fault, Refuses limit fault ∧ h.setLimit limit = (.error fault, { h with limit })) ∧
      History.setLimit { h with limit } limit = (.ok (), { h with limit }) := by
  refine ⟨?_, setLimit_self _⟩
  obtain ⟨fault, tried, refuses⟩ := capacity?_of_not_grantable refused
  refine ⟨fault, refuses, ?_⟩
  unfold setLimit
  rw [if_neg (by simpa using new), tried]

/-! ## §2 All or Nothing -/

/-- The capacity is the limit, and there is room for the samples. -/
structure InForce (h : History) : Prop where
  room : h.samples.length ≤ h.capacity
  bounded : h.capacity < 2 ^ 63
  agree : h.limit = h.capacity

/-- Asking for a limit puts it in force and keeps the newest samples that there is room for, or it is refused
and leaves the history as it is. -/
def AllOrNothing (h : History) (limit : Int) : Prop :=
  h.setLimit limit = (.ok (), ⟨limit, limit.toNat, newest limit.toNat h.samples⟩) ∨
    ∃ fault, h.setLimit limit = (.error fault, h)

theorem newest_of_length_le {n : ℕ} {xs : List Sample} (room : xs.length ≤ n) : newest n xs = xs := by
  rw [newest, Nat.sub_eq_zero_of_le room, List.drop_zero]

theorem InForce.grantable (inForce : h.InForce) : Grantable h.limit := by
  have agree := inForce.agree
  have bounded := inForce.bounded
  exact ⟨by omega, by omega⟩

/-- A limit that can be a capacity is put in force. -/
theorem InForce.setLimit (inForce : h.InForce) (grantable : Grantable limit) :
    h.setLimit limit = (.ok (), ⟨limit, limit.toNat, newest limit.toNat h.samples⟩) := by
  by_cases new : limit = h.limit
  · -- there is room for all samples already, so keeping the newest keeps them all
    subst new
    have capacity : h.limit.toNat = h.capacity := by rw [inForce.agree, Int.toNat_natCast]
    rw [setLimit_self, capacity, newest_of_length_le inForce.room]
  · exact setLimit_of_grantable new grantable

/-- **Step**: a change of the limit is all or nothing exactly when the limit can be a capacity. -/
theorem InForce.allOrNothing_iff (inForce : h.InForce) : h.AllOrNothing limit ↔ Grantable limit := by
  constructor
  · intro either
    -- a refused limit is not the one in force, so recording it is a change that ends in a fault
    by_contra refused
    have new : limit ≠ h.limit := by
      rintro rfl
      exact refused inForce.grantable
    obtain ⟨⟨fault, -, ended⟩, -⟩ := setLimit_of_refused new refused
    rcases either with granted | ⟨fault', kept⟩
    · rw [ended] at granted
      cases (Prod.mk.inj granted).1
    · rw [ended] at kept
      exact new (congrArg History.limit (Prod.mk.inj kept).2)
  · intro grantable
    exact .inl (inForce.setLimit grantable)

/-! ## §3 Calls on a History -/

/-- A call on a history. -/
inductive Call where
  | append (sample : Sample)
  | average (value : Value) (now window : Number)
  | limit (limit : Int)

/-- The history after a call; the fault in which the call may have ended is passed over. -/
def perform (h : History) : Call → History
  | .append sample => h.push sample
  | .average value now window => (h.windowedMean value now window).2
  | .limit limit => (h.setLimit limit).2

def performAll (h : History) (calls : List Call) : History := calls.foldl perform h

/-- The limit that a call asks for. -/
def Call.limit? : Call → Option Int
  | .limit n => some n
  | _ => none

/-- The limit that some calls have asked for last, or the one that there was before. -/
def lastAsked (before : Int) (calls : List Call) : Int := (calls.filterMap Call.limit?).getLastD before

/-- The limit that has been granted last in some calls, or the one that there was before. -/
def lastGranted (before : Int) (calls : List Call) : Int :=
  ((calls.filterMap Call.limit?).filter (Grantable ·)).getLastD before

/-- The limit that was asked for last, and the one that was granted last. -/
structure Stands (h : History) (asked granted : Int) : Prop where
  limit : h.limit = asked
  capacity : (h.capacity : Int) = granted
  room : h.samples.length ≤ h.capacity
  bounded : h.capacity < 2 ^ 63
  /-- What was asked for last was granted if it could be. -/
  last : Grantable asked → asked = granted

theorem InForce.stands (inForce : h.InForce) : h.Stands h.limit h.limit :=
  ⟨rfl, inForce.agree.symm, inForce.room, inForce.bounded, fun _ => rfl⟩

theorem Stands.push (stands : h.Stands asked granted) (sample : Sample) :
    (h.push sample).Stands asked granted :=
  ⟨stands.limit, stands.capacity, length_newest_le _ _, stands.bounded, stands.last⟩

theorem Stands.prune (stands : h.Stands asked granted) (cutoff : Number) :
    (h.prune cutoff).Stands asked granted :=
  ⟨stands.limit, stands.capacity, (List.dropWhile_sublist _).length_le.trans stands.room, stands.bounded,
    stands.last⟩

/-- **Step**: a limit that is asked for is recorded, and it is granted if it can be a capacity. -/
theorem Stands.setLimit (stands : h.Stands asked granted) (limit : Int) :
    (h.setLimit limit).2.Stands limit (if Grantable limit then limit else granted) := by
  by_cases new : limit = h.limit
  · -- nothing is done, and nothing needs to be done
    subst new
    rw [setLimit_self]
    split_ifs with grantable
    · have agree : asked = granted := stands.last (stands.limit ▸ grantable)
      exact ⟨rfl, by rw [stands.capacity, stands.limit, agree], stands.room, stands.bounded, fun _ => rfl⟩
    · exact ⟨rfl, stands.capacity, stands.room, stands.bounded, fun able => absurd able grantable⟩
  · split_ifs with grantable
    · rw [setLimit_of_grantable new grantable]
      obtain ⟨nonneg, within⟩ := grantable
      exact ⟨rfl, Int.toNat_of_nonneg nonneg, length_newest_le _ _, by dsimp only; omega, fun _ => rfl⟩
    · obtain ⟨⟨fault, -, ended⟩, -⟩ := setLimit_of_refused new grantable
      rw [ended]
      exact ⟨rfl, stands.capacity, stands.room, stands.bounded, fun able => absurd able grantable⟩

/-- **Step**: a call moves the limit to what it asks for, and the capacity to what it is granted. -/
theorem Stands.perform (stands : h.Stands asked granted) (call : Call) :
    (h.perform call).Stands (call.limit?.getD asked)
      ((call.limit?.filter (Grantable ·)).getD granted) := by
  cases call with
  | append sample => exact stands.push sample
  | average value now window => exact (stands.push _).prune _
  | limit limit =>
    have moved := stands.setLimit limit
    rw [Call.limit?, Option.getD_some, Option.filter_some]
    by_cases grantable : Grantable limit <;> simpa [History.perform, grantable] using moved

theorem lastAsked_append (before : Int) (calls : List Call) (call : Call) :
    lastAsked before (calls ++ [call]) = call.limit?.getD (lastAsked before calls) := by
  unfold lastAsked
  cases call <;> simp [Call.limit?, List.getLastD_eq_getLast?]

theorem lastGranted_append (before : Int) (calls : List Call) (call : Call) :
    lastGranted before (calls ++ [call]) =
      (call.limit?.filter (Grantable ·)).getD (lastGranted before calls) := by
  unfold lastGranted
  rcases asks : call.limit? with _ | limit
  · simp [asks]
  · by_cases grantable : Grantable limit <;>
      simp [asks, grantable, Option.filter, List.getLastD_eq_getLast?]

/-- **Run**: after any calls the limit is the one that was asked for last, and the capacity the one that was
granted last. -/
theorem InForce.stands_performAll (inForce : h.InForce) (calls : List Call) :
    (h.performAll calls).Stands (lastAsked h.limit calls) (lastGranted h.limit calls) := by
  -- the last call decides on what was asked for last, so the calls are taken from their end
  induction calls using List.reverseRecOn with
  | nil => exact inForce.stands
  | append_singleton calls call ih =>
    rw [performAll, List.foldl_append, lastAsked_append, lastGranted_append]
    exact ih.perform call

/-! ## §4 Limits after Calls -/

/-- When what was asked for last could be granted, the limit is the capacity again. -/
theorem Stands.inForce_iff (stands : h.Stands asked granted) : h.InForce ↔ Grantable asked := by
  constructor
  · intro inForce
    rw [← stands.limit]
    exact inForce.grantable
  · intro grantable
    exact ⟨stands.room, stands.bounded, by rw [stands.limit, stands.capacity, stands.last grantable]⟩

/-- A limit can be put in force exactly when it can be a capacity: then the newest samples that there is room
for are kept, and otherwise the change ends in a fault that leaves the capacity and the samples, but not the
limit, so that another try finds nothing to do. After any calls the limit is the one that was asked for last
and the capacity the one that was granted last, there is room for the samples, and limit and capacity agree
exactly when the limit that was asked for last can be a capacity. -/
theorem limits_hold (h : History) (inForce : h.InForce) :
    (∀ limit, Grantable limit →
      h.setLimit limit = (.ok (), ⟨limit, limit.toNat, newest limit.toNat h.samples⟩)) ∧
    (∀ limit, ¬ Grantable limit →
      (∃ fault, Refuses limit fault ∧ h.setLimit limit = (.error fault, { h with limit })) ∧
        History.setLimit { h with limit } limit = (.ok (), { h with limit })) ∧
    (∀ limit, h.AllOrNothing limit ↔ Grantable limit) ∧
    ∀ calls, (h.performAll calls).Stands (lastAsked h.limit calls) (lastGranted h.limit calls) ∧
      ((h.performAll calls).InForce ↔ Grantable (lastAsked h.limit calls)) := by
  refine ⟨fun limit => inForce.setLimit, fun limit refused => ?_, fun limit => inForce.allOrNothing_iff,
    fun calls => ?_⟩
  · refine setLimit_of_refused (fun same => ?_) refused
    subst same
    exact refused inForce.grantable
  · have stands := inForce.stands_performAll calls
    exact ⟨stands, stands.inForce_iff⟩

/-- A history of three samples whose limit is lowered to two after a limit of minus one has been refused. -/
theorem limits_hold_when_lowered :
    let h := empty 3
    let calls := [Call.append ⟨.int 1, .int 0⟩, .append ⟨.int 2, .int 1⟩, .append ⟨.int 3, .int 2⟩,
      .limit (-1), .limit 2]
    h.InForce ∧ h.AllOrNothing 2 ∧ ¬ h.AllOrNothing (-1) ∧ (h.performAll calls).InForce ∧
      (h.performAll calls).samples = [⟨.int 2, .int 1⟩, ⟨.int 3, .int 2⟩] := by
  intro h calls
  have inForce : h.InForce := ⟨by decide, by decide, rfl⟩
  obtain ⟨-, -, allOrNothing, after⟩ := limits_hold h inForce
  have lowered : Grantable 2 := by decide
  have refused : ¬ Grantable (-1) := by decide
  exact ⟨inForce, (allOrNothing 2).2 lowered, mt (allOrNothing (-1)).1 refused, (after calls).2.2 lowered, rfl⟩

/-- A limit of minus one is refused and yet recorded, the capacity stays, and the same limit is taken when it
is asked for once more. -/
theorem refused_limit_recorded :
    let h := empty 3
    h.InForce ∧ h.setLimit (-1) = (.error .negativeLimit, { h with limit := -1 }) ∧
      ¬ h.AllOrNothing (-1) ∧
      (History.setLimit { h with limit := -1 } (-1)).1 = .ok () ∧
      ¬ (h.performAll [.limit (-1), .limit (-1)]).InForce := by
  have inForce : (empty 3).InForce := ⟨by decide, by decide, rfl⟩
  have refused : ¬ Grantable (-1) := by decide
  refine ⟨inForce, rfl, mt inForce.allOrNothing_iff.1 refused, rfl, fun after => ?_⟩
  exact refused after.grantable

end TickCircuit.History

import Mathlib.Data.List.Intervals
import TickCircuit.Proofs.Reaction.Delays
import TickCircuit.Proofs.Value.Key

/-!
# Delays That Drop What Waits

A delay that resets on a new signal drops what waits whenever a signal is queued, so what waits is at most
the entry that was queued last (`held_sublist`). A delay that resets on a different signal drops what waits
if the signal is not equal to the value that was queued last, so everything that waits is equal to this
value (`same_lastQueued`). When it has dropped what waited, it conserves no more than what it queues from
then on: what leaves it and what waits are among the entries that were queued since
(`departed_append_held_subperm`).
-/

namespace TickCircuit

namespace DelayLine

/-! ## §1 One Tick -/

section Tick

variable (line : DelayLine) (s : Stimulus)

/-- A signal that is queued drives out what waits. -/
def drops : Bool :=
  (s.setting "resetOnNewSignal").truthy ||
    ((s.setting "resetOnDifferentSignal").truthy && !(s.input "SIGNAL_IN").same line.lastQueued)

/-- A new signal is queued behind what it does not drive out, and any other signal changes nothing. -/
theorem held_arrived :
    (line.arrived s).held =
      if line.isNew (s.input "SIGNAL_IN") then (if line.drops s then [] else line.held) ++ [entry s]
      else line.held := by
  unfold arrived receive
  split <;> rfl

theorem lastQueued_arrived :
    (line.arrived s).lastQueued =
      if line.isNew (s.input "SIGNAL_IN") then s.input "SIGNAL_IN" else line.lastQueued := by
  unfold arrived receive
  split <;> rfl

/-- Without resets there is more that waits. -/
theorem held_arrived_sublist : (line.arrived s).held.Sublist (line.waiting s) := by
  rw [held_arrived, waiting]
  split
  · split
    · exact List.sublist_append_right _ _
    · exact List.Sublist.refl _
  · exact List.sublist_append_left _ _

end Tick

variable {line : DelayLine} {s : Stimulus}

theorem mem_of_departs {h : Held} (out : line.departs s = some h) : h ∈ (line.arrived s).held :=
  List.mem_of_find?_eq_some out

/-! ## §2 What Was Queued Last -/

/-- The value that was queued last in the first ticks. -/
def latest (course : Course) (n : ℕ) : Value :=
  ((queued course n).getLast?.map Held.value).getD .absent

variable {course : Course} {start : DelayLine} {settings : Record} {j n : ℕ}

theorem getLast?_queued_succ (n : ℕ) :
    (queued course (n + 1)).getLast? =
      if arrives course n then some (entry (course n)) else (queued course n).getLast? := by
  rw [queued_succ]
  split <;> simp

theorem latest_succ (n : ℕ) :
    latest course (n + 1) =
      if arrives course n then course.signals "SIGNAL_IN" n else latest course n := by
  rw [latest, getLast?_queued_succ]
  split <;> rfl

theorem isNew_input (starts : Shape.delay.initial settings = .ok start) (n : ℕ) :
    (after course start n).isNew ((course n).input "SIGNAL_IN") = arrives course n :=
  isNew_after starts n

/-- **Run**: the line keeps the value that was queued last. -/
theorem lastQueued_after (starts : Shape.delay.initial settings = .ok start) (n : ℕ) :
    (after course start n).lastQueued = latest course n := by
  induction n with
  | zero =>
    cases starts
    rfl
  | succ n ih =>
    rw [latest_succ, ← ih, ← isNew_input starts]
    exact lastQueued_arrived _ _

/-! ## §3 Resets on New Signals -/

/-- **Step**: what waits is at most the entry that was queued last. -/
theorem arrived_sublist (starts : Shape.delay.initial settings = .ok start)
    (resets : ((course n).setting "resetOnNewSignal").truthy = true)
    (before : (after course start n).held.Sublist (queued course n).getLast?.toList) :
    ((after course start n).arrived (course n)).held.Sublist
      (queued course (n + 1)).getLast?.toList := by
  rw [held_arrived, getLast?_queued_succ, drops, resets, Bool.true_or, isNew_input starts]
  split
  · exact List.Sublist.refl _
  · exact before

/-- **Run**: what waits is at most the entry that was queued last. -/
theorem held_sublist (starts : Shape.delay.initial settings = .ok start)
    (resets : ∀ i < n, ((course i).setting "resetOnNewSignal").truthy = true) :
    (after course start n).held.Sublist (queued course n).getLast?.toList := by
  induction n with
  | zero =>
    cases starts
    exact List.nil_sublist _
  | succ n ih =>
    have earlier := ih fun i below => resets i (Nat.lt_succ_of_lt below)
    exact List.eraseP_sublist.trans (arrived_sublist starts (resets n n.lt_succ_self) earlier)

theorem length_le_one {held : List Held} {last : Option Held} (among : held.Sublist last.toList) :
    held.length ≤ 1 := among.length_le.trans (by cases last <;> simp)

/-! ## §4 Resets on Different Signals -/

/-- Everything that waits is equal to what was queued last. -/
def Uniform (line : DelayLine) : Prop := ∀ h ∈ line.held, h.value.sameScalar line.lastQueued = true

/-- **Step**: the arrival of a signal preserves this, if it is the same key as itself. -/
theorem Uniform.arrived (uniform : line.Uniform)
    (resets : (s.setting "resetOnDifferentSignal").truthy = true)
    (key : (s.input "SIGNAL_IN").isKey = true)
    (reflexive : (s.input "SIGNAL_IN").same (s.input "SIGNAL_IN") = true) :
    (line.arrived s).Uniform := by
  rw [Value.same_eq_sameScalar key] at reflexive
  unfold Uniform
  rw [held_arrived, lastQueued_arrived]
  split
  · intro h member
    cases List.mem_append.1 member with
    | inr last =>
      rw [List.mem_singleton.1 last]
      exact reflexive
    | inl earlier =>
      -- what has not been dropped is equal to the last value, and the signal is equal to it, too
      split at earlier
      · cases earlier
      · next keeps =>
        have same : (s.input "SIGNAL_IN").sameScalar line.lastQueued = true := by
          rw [← Value.same_eq_sameScalar key]
          simpa [drops, resets] using (Bool.or_eq_false_iff.1 (Bool.eq_false_iff.2 keeps)).2
        rw [Value.sameScalar_congr_right same]
        exact uniform h earlier
  · exact uniform

/-- **Run**: everything that waits after a tick is equal to what was queued last. -/
theorem uniform_after (starts : Shape.delay.initial settings = .ok start)
    (resets : ∀ i < n, ((course i).setting "resetOnDifferentSignal").truthy = true)
    (keys : ∀ i < n, (course.signals "SIGNAL_IN" i).isKey = true)
    (reflexive : ∀ i < n,
      (course.signals "SIGNAL_IN" i).same (course.signals "SIGNAL_IN" i) = true) :
    (after course start n).Uniform := by
  induction n with
  | zero =>
    cases starts
    exact List.forall_mem_nil _
  | succ n ih =>
    have earlier := ih (fun i below => resets i (Nat.lt_succ_of_lt below))
      (fun i below => keys i (Nat.lt_succ_of_lt below))
      (fun i below => reflexive i (Nat.lt_succ_of_lt below))
    have arrived := earlier.arrived (resets n n.lt_succ_self) (keys n n.lt_succ_self)
      (reflexive n n.lt_succ_self)
    exact fun h member => arrived h (List.mem_of_mem_eraseP member)

theorem Uniform.same {h : Held} (uniform : line.Uniform) (member : h ∈ line.held) :
    h.value.same line.lastQueued = true := by
  have same := uniform h member
  rwa [Value.same_eq_sameScalar (Value.isKey_of_sameScalar same)]

/-! ## §5 After a Reset -/

section Since

variable (course : Course) (start : DelayLine)

/-- The entries that are queued from tick `j` on. -/
def queuedSince (j n : ℕ) : List Held :=
  ((List.Ico j n).filter (arrives course)).map fun i => entry (course i)

/-- The entries that leave the line from tick `j` on. -/
def departed (j n : ℕ) : List Held :=
  (List.Ico j n).filterMap fun i => (after course start i).departs (course i)

end Since

theorem queuedSince_succ (from_le : j ≤ n) :
    queuedSince course j (n + 1) =
      queuedSince course j n ++ if arrives course n then [entry (course n)] else [] := by
  rw [queuedSince, List.Ico.succ_top from_le, List.filter_append, List.map_append]
  cases here : arrives course n <;> simp [here, queuedSince]

theorem departed_succ (from_le : j ≤ n) :
    departed course start j (n + 1) =
      departed course start j n ++ ((after course start n).departs (course n)).toList := by
  rw [departed, List.Ico.succ_top from_le, List.filterMap_append]
  rfl

/-- **Step**: what leaves in a tick and what still waits after it is what waited in it. -/
theorem departs_append_held_perm (n : ℕ) :
    (((after course start n).departs (course n)).toList ++ (after course start (n + 1)).held).Perm
      ((after course start n).arrived (course n)).held :=
  find?_append_eraseP_perm _ _

/-- **Run**: when the signal of a tick has driven out what waited, the entries that leave from this tick on
and those that wait are among the ones that were queued from this tick on, each as often as it was queued. -/
theorem departed_append_held_subperm (starts : Shape.delay.initial settings = .ok start)
    (arrives : arrives course j = true)
    (reset : ((after course start j).arrived (course j)).held = [entry (course j)]) (later : j < n) :
    (departed course start j n ++ (after course start n).held).Subperm (queuedSince course j n) := by
  induction n, later using Nat.le_induction with
  | base =>
    rw [departed_succ le_rfl, queuedSince_succ le_rfl, if_pos arrives, departed, queuedSince,
      List.Ico.self_empty]
    refine (departs_append_held_perm j).subperm.trans ?_
    rw [reset]
    exact List.Subperm.refl _
  | succ n after_j ih =>
    -- what leaves and what waits is what waited before, with the signal of the tick behind it
    have le : j ≤ n := Nat.le_of_lt after_j
    rw [departed_succ le, queuedSince_succ le, List.append_assoc]
    refine ((departs_append_held_perm n).append_left _).subperm.trans ?_
    refine ((held_arrived_sublist _ _).append_left _).subperm.trans ?_
    rw [waiting_after starts, ← List.append_assoc]
    exact ih.append (List.Subperm.refl _)

/-- A signal that is not equal to what was queued last drives out what waits. -/
theorem held_arrived_of_different (starts : Shape.delay.initial settings = .ok start)
    (resets : ((course j).setting "resetOnDifferentSignal").truthy = true)
    (arrives : arrives course j = true)
    (different : (course.signals "SIGNAL_IN" j).same (latest course j) = false) :
    ((after course start j).arrived (course j)).held = [entry (course j)] := by
  have apart : ((course j).input "SIGNAL_IN").same (after course start j).lastQueued = false := by
    rw [lastQueued_after starts]
    exact different
  rw [held_arrived, isNew_input starts, if_pos arrives, drops, resets, apart]
  simp

/-- **Resets**: in each tick a delay emits the value of the entry that leaves it. If it resets on new signals
in every tick, there is never more than one entry in it, and what leaves it is the entry that was queued
last. If it resets on different signals in every tick, and the signals are scalars other than NaNs, then
everything that waits after a tick, and everything that is emitted in it, is equal to the value that was
queued last. And when a signal is queued that is not equal to this value, it is the only entry that waits,
and from then on the entries that leave and those that wait are among the ones that are queued from then on,
each as often as it is queued: nothing that was queued before leaves any more. -/
theorem resets_consistent (starts : Shape.delay.initial settings = .ok start) :
    let line := after course start
    (∀ i, (Reaction.delay (course i) (line i)).outputs =
        .ok (((line i).departs (course i)).map fun h => [("SIGNAL_OUT", h.value)])) ∧
      ((∀ i < n, ((course i).setting "resetOnNewSignal").truthy = true) →
        (∀ i ≤ n, (line i).held.length ≤ 1) ∧
          ∀ i < n, ((line i).arrived (course i)).held.length ≤ 1 ∧
            ∀ h, (line i).departs (course i) = some h → (queued course (i + 1)).getLast? = some h) ∧
      ((∀ i < n, ((course i).setting "resetOnDifferentSignal").truthy = true) →
        (∀ i < n, (course.signals "SIGNAL_IN" i).isKey = true) →
        (∀ i < n, (course.signals "SIGNAL_IN" i).same (course.signals "SIGNAL_IN" i) = true) →
        (∀ i ≤ n, ∀ h ∈ (line i).held, h.value.same (latest course i) = true) ∧
          (∀ i < n, ∀ h, (line i).departs (course i) = some h →
            h.value.same (latest course (i + 1)) = true) ∧
          ∀ j < n, arrives course j = true →
            (course.signals "SIGNAL_IN" j).same (latest course j) = false →
            ((line j).arrived (course j)).held = [entry (course j)] ∧
              ∀ m, j < m → m ≤ n →
                (departed course start j m ++ (line m).held).Subperm (queuedSince course j m)) := by
  intro line
  refine ⟨fun i => (delay_step _ _).2, fun resets => ?_, fun resets keys reflexive => ?_⟩
  · have among (i : ℕ) (le : i ≤ n) : (line i).held.Sublist (queued course i).getLast?.toList :=
      held_sublist starts fun k below => resets k (below.trans_le le)
    refine ⟨fun i le => length_le_one (among i le), fun i below => ?_⟩
    have arrived := arrived_sublist starts (resets i below) (among i below.le)
    refine ⟨length_le_one arrived, fun h out => ?_⟩
    exact Option.mem_toList.1 (arrived.subset (mem_of_departs out))
  · have uniform (i : ℕ) (le : i ≤ n) : (line i).Uniform :=
      uniform_after starts (fun k below => resets k (below.trans_le le))
        (fun k below => keys k (below.trans_le le)) fun k below => reflexive k (below.trans_le le)
    refine ⟨fun i le h member => ?_, fun i below h out => ?_, fun j below arrives different => ?_⟩
    · rw [← lastQueued_after starts]
      exact (uniform i le).same member
    · rw [← lastQueued_after starts]
      exact ((uniform i below.le).arrived (resets i below) (keys i below) (reflexive i below)).same
        (mem_of_departs out)
    · have reset := held_arrived_of_different starts (resets j below) arrives different
      exact ⟨reset, fun m later _ => departed_append_held_subperm starts arrives reset later⟩

/-- A flag, an equal number and a text under a delay of two ticks, with both resets: the text drives out the
number before this has left, and leaves the line itself two ticks later. -/
theorem resets_consistent_of_three_signals :
    let course := Course.ofInputs
      [("delay", .real 0.2), ("resetOnNewSignal", .flag true), ("resetOnDifferentSignal", .flag true)]
      fun i => [("SIGNAL_IN", match i with | 0 => .flag true | 1 => .absent | 2 => .int 1 | _ => .text "b")]
    let start : DelayLine := ⟨[], .absent, .absent⟩
    (∀ i ≤ 6, (after course start i).held.length ≤ 1) ∧
      (departed course start 3 6 ++ (after course start 6).held).Subperm (queuedSince course 3 6) ∧
      (departed course start 0 6).map (fun h => h.value.display) = ["b"] := by
  intro course start
  have starts : Shape.delay.initial [] = .ok start := rfl
  obtain ⟨-, new, different⟩ := @resets_consistent course start [] 6 starts
  obtain ⟨-, -, since⟩ := different (fun i _ => rfl) (by decide +kernel) (by decide +kernel)
  exact ⟨(new fun i _ => rfl).1, (since 3 (by decide) (by decide +kernel) (by decide +kernel)).2 6
    (by decide) le_rfl, by decide +kernel⟩

end DelayLine

end TickCircuit

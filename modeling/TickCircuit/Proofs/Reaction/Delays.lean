import TickCircuit.Proofs.Number.Order
import TickCircuit.Proofs.Reaction.Courses
import TickCircuit.Proofs.Signal.Reading

/-!
# Delays over Many Ticks

A delay without resets conserves its entries: those that it has released and those that wait are together
the ones that were queued (`delay_conserves`). In each tick it releases the first entry that is due, if there
is one. So entries that were queued in the order of their releases are released in this order, and they are
queued in it as long as the delay does not change and the time does not go back (`queued_in_order`).
-/

namespace TickCircuit

/-- A signal is not equal to one that is not there. -/
theorem Value.isPresent_of_same {v w : Value} (present : v.isPresent = true) (same : v.same w = true) :
    w.isPresent = true := by
  by_contra missing
  cases w with
  | null | absent => cases v <;> simp_all [isPresent, Value.same, sameScalar, number?]
  | text t => cases v <;> simp_all [isPresent, Value.same, sameScalar, number?]
  | _ => exact missing rfl

namespace DelayLine

/-! ## §1 Lists -/

section Lists

variable {α : Type*} {p : α → Bool}

/-- What is found first and what is left without it are together what there was. -/
theorem find?_append_eraseP_perm (p : α → Bool) (xs : List α) :
    ((xs.find? p).toList ++ xs.eraseP p).Perm xs := by
  induction xs with
  | nil => rfl
  | cons x xs ih =>
    cases found : p x with
    | true =>
      rw [List.find?_cons_of_pos found, List.eraseP_cons_of_pos found]
      rfl
    | false =>
      rw [List.find?_cons_of_neg (by simp [found]), List.eraseP_cons_of_neg (by simp [found])]
      exact List.perm_middle.trans (ih.cons x)

/-- They are in the same order, too, if nothing is found behind what is not. -/
theorem find?_append_eraseP_eq {xs : List α} (before : xs.Pairwise fun x y => p y = true → p x = true) :
    (xs.find? p).toList ++ xs.eraseP p = xs := by
  cases xs with
  | nil => rfl
  | cons x xs =>
    cases found : p x with
    | true =>
      rw [List.find?_cons_of_pos found, List.eraseP_cons_of_pos found]
      rfl
    | false =>
      have none : ∀ y ∈ x :: xs, ¬ p y = true := by
        refine List.forall_mem_cons.2 ⟨by simp [found], fun y later due => ?_⟩
        rw [(List.pairwise_cons.1 before).1 y later due] at found
        cases found
      rw [List.find?_eq_none.2 none, List.eraseP_of_forall_not none]
      rfl

end Lists

/-! ## §2 One Tick -/

variable {s : Stimulus} {line : DelayLine}

/-- The delay in a tick, in milliseconds. -/
def lag (s : Stimulus) : Float := milliseconds (s.input "SET_DELAY") (s.setting "delay")

/-- What a signal is queued as. -/
def entry (s : Stimulus) : Held := ⟨s.input "SIGNAL_IN", s.moment.now + lag s⟩

def isDue (s : Stimulus) (h : Held) : Bool := h.release ≤ s.moment.now

/-- The line in a tick after its signal has arrived and before anything is released. -/
def arrived (line : DelayLine) (s : Stimulus) : DelayLine :=
  line.receive ⟨(s.setting "resetOnNewSignal").truthy, (s.setting "resetOnDifferentSignal").truthy⟩
    (s.input "SIGNAL_IN") (entry s).release

/-- The entry that leaves the line in a tick. -/
def departs (line : DelayLine) (s : Stimulus) : Option Held := (line.arrived s).held.find? (isDue s)

/-- **Step**: a delay emits the value of the first entry that is due and keeps the others. -/
theorem delay_step (line : DelayLine) (s : Stimulus) :
    (Reaction.delay s line).state = { line.arrived s with held := (line.arrived s).held.eraseP (isDue s) } ∧
      (Reaction.delay s line).outputs = .ok ((line.departs s).map fun h => [("SIGNAL_OUT", h.value)]) :=
  ⟨rfl, congrArg Except.ok (Option.map_map _ _ _)⟩

/-- Nothing drives out the entries that wait. -/
structure Keeps (s : Stimulus) : Prop where
  new : (s.setting "resetOnNewSignal").truthy = false
  different : (s.setting "resetOnDifferentSignal").truthy = false

/-- What waits in a tick, with the entry of this tick if its signal is new. -/
def waiting (line : DelayLine) (s : Stimulus) : List Held :=
  line.held ++ if line.isNew (s.input "SIGNAL_IN") then [entry s] else []

/-- The entry that is released in a tick. -/
def released (line : DelayLine) (s : Stimulus) : Option Held := (line.waiting s).find? (isDue s)

theorem held_arrived_of_keeps (keeps : Keeps s) : (line.arrived s).held = line.waiting s := by
  rw [arrived, receive, waiting, keeps.new, keeps.different]
  split
  · rfl
  · exact (List.append_nil _).symm

/-- A delay that keeps what waits releases the first entry that is due, and keeps the others. -/
theorem delay_react (keeps : Keeps s) :
    (Reaction.delay s line).state.held = (line.waiting s).eraseP (isDue s) ∧
      (Reaction.delay s line).outputs =
        .ok ((line.released s).map fun h => [("SIGNAL_OUT", h.value)]) := by
  rw [(delay_step line s).1, (delay_step line s).2, departs, released, held_arrived_of_keeps keeps]
  exact ⟨rfl, rfl⟩

theorem due_of_released {h : Held} (out : line.released s = some h) : h.release ≤ s.moment.now := by
  simpa [isDue] using List.find?_some out

theorem exists_released {h : Held} (member : h ∈ line.waiting s) (due : h.release ≤ s.moment.now) :
    ∃ first, line.released s = some first :=
  Option.isSome_iff_exists.1 (List.find?_isSome.2 ⟨h, member, decide_eq_true due⟩)

/-! ## §3 Runs -/

section Runs

variable (course : Course) (start : DelayLine)

/-- The line after some ticks. -/
abbrev after (n : ℕ) : DelayLine := Reaction.stateAfter Reaction.delay course start n

/-- In tick `i` there is a signal that is not equal to the one of the tick before. -/
def arrives (i : ℕ) : Bool :=
  (course.signals "SIGNAL_IN" i).isPresent &&
    !(course.signals "SIGNAL_IN" i).same (previous .absent (course.signals "SIGNAL_IN") i)

/-- The entries that have been queued in the first ticks. -/
def queued (n : ℕ) : List Held := ((List.range n).filter (arrives course)).map fun i => entry (course i)

/-- The entries that have been released in the first ticks. -/
def emitted (n : ℕ) : List Held :=
  (List.range n).filterMap fun i => (after course start i).released (course i)

end Runs

variable {course : Course} {start : DelayLine} {settings : Record} {n : ℕ}

theorem isNew_after (starts : Shape.delay.initial settings = .ok start) (i : ℕ) :
    (after course start i).isNew (course.signals "SIGNAL_IN" i) = arrives course i := by
  have last : (after course start i).lastInput =
      previous start.lastInput (course.signals "SIGNAL_IN") i :=
    Reaction.kept_stateAfter DelayLine.lastInput (fun _ _ => rfl) i
  cases starts
  rw [isNew, arrives, last]
  cases present : (course.signals "SIGNAL_IN" i).isPresent with
  | false => rfl
  | true =>
    cases same : (course.signals "SIGNAL_IN" i).same (previous .absent (course.signals "SIGNAL_IN") i) with
    | false => rw [Bool.and_false]
    | true => rw [Value.isPresent_of_same present same, Bool.and_true]

/-- One tick more is one entry more, if a signal arrives in it. -/
theorem queued_succ (n : ℕ) :
    queued course (n + 1) =
      queued course n ++ if arrives course n then [entry (course n)] else [] := by
  rw [queued, List.range_succ, List.filter_append, List.map_append]
  cases here : arrives course n <;> simp [here, queued]

theorem emitted_succ (n : ℕ) :
    emitted course start (n + 1) =
      emitted course start n ++ ((after course start n).released (course n)).toList := by
  rw [emitted, List.range_succ, List.filterMap_append]
  rfl

theorem waiting_after (starts : Shape.delay.initial settings = .ok start) (i : ℕ) :
    (after course start i).waiting (course i) =
      (after course start i).held ++ if arrives course i then [entry (course i)] else [] := by
  rw [← isNew_after starts i]
  rfl

/-- **Run**: what has been released and what is held is what has been queued. -/
theorem emitted_append_held_perm (starts : Shape.delay.initial settings = .ok start)
    (keeps : ∀ i < n, Keeps (course i)) :
    (emitted course start n ++ (after course start n).held).Perm (queued course n) := by
  induction n with
  | zero =>
    cases starts
    rfl
  | succ n ih =>
    have earlier := ih fun i below => keeps i (by omega)
    have held : (after course start (n + 1)).held = _ := (delay_react (keeps n (by omega))).1
    have step := find?_append_eraseP_perm (isDue (course n)) ((after course start n).waiting (course n))
    rw [emitted_succ, queued_succ, held, List.append_assoc]
    refine (step.append_left _).trans ?_
    rw [waiting_after starts, ← List.append_assoc]
    exact earlier.append_right _

/-- **Run**: in the order of the queue, if its releases are in order. -/
theorem emitted_append_held_eq (starts : Shape.delay.initial settings = .ok start)
    (keeps : ∀ i < n, Keeps (course i))
    (ordered : (queued course n).Pairwise fun h k => h.release ≤ k.release) :
    emitted course start n ++ (after course start n).held = queued course n := by
  induction n with
  | zero =>
    cases starts
    rfl
  | succ n ih =>
    have parts : queued course (n + 1) = _ := queued_succ n
    have earlier := ih (fun i below => keeps i (by omega)) (by
      rw [parts] at ordered
      exact (List.pairwise_append.1 ordered).1)
    have held : (after course start (n + 1)).held = _ := (delay_react (keeps n (by omega))).1
    rw [← earlier, List.append_assoc, ← waiting_after starts] at parts
    rw [parts] at ordered
    -- what is due makes everything before it due
    have step : (((after course start n).waiting (course n)).find? (isDue (course n))).toList ++ _ = _ :=
      find?_append_eraseP_eq ((List.pairwise_append.1 ordered).2.1.imp fun before due =>
        decide_eq_true (Binary.le_trans before (of_decide_eq_true due)))
    rw [emitted_succ, held, List.append_assoc, parts]
    exact congrArg _ step

/-! ## §4 Constant Delays -/

/-- No delay is negative, and none is a NaN. -/
theorem milliseconds_nonneg (override setting : Value) : 0.0 ≤ milliseconds override setting := by
  unfold milliseconds
  generalize given : (override.reading?.orElse fun _ => setting.reading?).getD (.int 0) = seconds
  obtain ⟨w, number⟩ : ∃ w, seconds.exactValue? = some w := by
    rw [← given]
    cases first : override.reading? with
    | some n => exact Value.exists_exactValue? first
    | none =>
      cases second : setting.reading? with
      | some n => exact Value.exists_exactValue? second
      | none => exact ⟨_, rfl⟩
  have zero : (Number.int 0).exactValue? = some (.units 0) := congrArg some Exact.ofInt_zero
  have product (n : Number) : (n.mul (.real 1000.0)).toFloat = n.toFloat * 1000.0 := by cases n <;> rfl
  dsimp only
  rw [product]
  refine Binary.mul_thousand_nonneg ?_
  split
  · exact Number.zero_le_toFloat zero le_rfl
  · next notBelow =>
    exact Number.zero_le_toFloat number (not_lt.1 ((Number.lt_iff_exact number zero).not.1 notBelow))

/-- Entries of one delay are queued in the order of their releases, if the time does not go back. -/
theorem queued_in_order {d : Float} (constant : ∀ i < n, lag (course i) = d)
    (finite : ∀ i < n, (course i).moment.now.isFinite = true)
    (forward : ∀ i, i + 1 < n → (course i).moment.now ≤ (course (i + 1)).moment.now) :
    (queued course n).Pairwise fun h k => h.release ≤ k.release := by
  have times (i j : ℕ) (less : i < j) (below : j < n) : (course i).moment.now ≤ (course j).moment.now := by
    induction j, less using Nat.le_induction with
    | base => exact forward i below
    | succ j less ih => exact Binary.le_trans (ih (by omega)) (forward j below)
  refine List.pairwise_map.2 ((List.pairwise_lt_range.filter _).imp_of_mem fun {i j} memberI memberJ less => ?_)
  have belowI : i < n := List.mem_range.1 (List.mem_of_mem_filter memberI)
  have belowJ : j < n := List.mem_range.1 (List.mem_of_mem_filter memberJ)
  have nonneg : 0.0 ≤ d := constant i belowI ▸ milliseconds_nonneg _ _
  obtain ⟨w, number, -⟩ := Binary.nonneg_iff.1 nonneg
  rw [entry, entry, constant i belowI, constant j belowJ]
  exact Binary.add_le_add (times i j less belowJ) (finite i belowI) (finite j belowJ) number

/-- **Delays**: from its initial state, and as long as nothing drives out its entries, a delay has released or
still holds exactly what was queued: an entry for each tick with a signal that is not equal to the one of the
tick before. In each tick it emits the value of the entry that it releases, and nothing else; this entry is
due, and there is one if any entry that waits is due. If the entries were queued in the order of their
releases, as they are under a constant delay while the time goes forward, they are released in this order. -/
theorem delay_conserves (starts : Shape.delay.initial settings = .ok start)
    (keeps : ∀ i < n, Keeps (course i)) :
    (emitted course start n ++ (after course start n).held).Perm (queued course n) ∧
      (∀ i < n,
        let now := (course i).moment.now
        let out := (after course start i).released (course i)
        (Reaction.delay (course i) (after course start i)).outputs =
            .ok (out.map fun h => [("SIGNAL_OUT", h.value)]) ∧
          (∀ h, out = some h → h.release ≤ now) ∧
          ∀ h ∈ (after course start i).held ++ (if arrives course i then [entry (course i)] else []),
            h.release ≤ now → ∃ first, out = some first) ∧
      ((queued course n).Pairwise (fun h k => h.release ≤ k.release) →
        emitted course start n ++ (after course start n).held = queued course n) ∧
      ∀ d, (∀ i < n, lag (course i) = d) → (∀ i < n, (course i).moment.now.isFinite = true) →
        (∀ i, i + 1 < n → (course i).moment.now ≤ (course (i + 1)).moment.now) →
        (queued course n).Pairwise fun h k => h.release ≤ k.release := by
  refine ⟨emitted_append_held_perm starts keeps, fun i below => ?_, emitted_append_held_eq starts keeps,
    fun d => queued_in_order⟩
  refine ⟨(delay_react (keeps i below)).2, fun h => due_of_released, fun h member due => ?_⟩
  rw [← waiting_after starts] at member
  exact exists_released member due

/-- Two signals, of which the first is held for a tick, under a delay of two ticks: after four ticks the
first one has been released and the second one waits. -/
theorem delay_conserves_of_two_signals :
    let course := Course.ofInputs [("delay", .real 0.2)] fun i =>
      [("SIGNAL_IN", if i < 2 then .text "a" else .text "b")]
    let start : DelayLine := ⟨[], .absent, .absent⟩
    (emitted course start 4).map (fun h => h.value.display) = ["a"] ∧
      emitted course start 4 ++ (after course start 4).held = queued course 4 ∧
      (queued course 4).map (fun h => h.value.display) = ["a", "b"] := by
  intro course start
  have keeps : ∀ i < 4, Keeps (course i) := fun i _ => ⟨rfl, rfl⟩
  have starts : Shape.delay.initial [] = .ok start := rfl
  obtain ⟨-, -, inOrder, constant⟩ := delay_conserves starts keeps
  have ordered := constant (0.2 * 1000.0) (fun i _ => rfl) (by decide +kernel)
    (fun i below => (by decide +kernel : ∀ i < 3, (course i).moment.now ≤ (course (i + 1)).moment.now) i
      (by omega))
  exact ⟨by decide +kernel, inOrder ordered, by decide +kernel⟩

end DelayLine

end TickCircuit

import TickCircuit.Component.History
import TickCircuit.Proofs.Number.Order
import TickCircuit.Proofs.Outcome

/-!
# Time Windows

A history loses samples in two ways: the oldest one goes when there is no room for another, and those that
are older than the window are dropped before the mean is taken. While neither the times nor the cutoffs go
back, what is left is a run of the latest samples, and which ones it has can be told from the last call alone
(`samples_recorded`). The sample that has just been recorded is always among them (`mem_windowedMean`).
-/

namespace TickCircuit

/-! ## §1 Lists -/

namespace History

theorem mem_dropWhile {α : Type*} {p : α → Bool} {x : α} {xs : List α} (member : x ∈ xs)
    (kept : p x = false) : x ∈ xs.dropWhile p := by
  rw [← List.takeWhile_append_dropWhile (p := p) (l := xs), List.mem_append] at member
  rcases member with dropped | left
  · rw [List.mem_takeWhile_imp dropped] at kept
    cases kept
  · exact left

/-- What is dropped from a run of numbers is another run, if whatever precedes a dropped number is dropped. -/
theorem exists_dropWhile_range' {p : ℕ → Bool} (a k : ℕ)
    (before : ∀ i j, a ≤ i → i < j → j < a + k → p j = true → p i = true) :
    ∃ b, a ≤ b ∧ b ≤ a + k ∧ (List.range' a k).dropWhile p = List.range' b (a + k - b) ∧
      ∀ i, a ≤ i → i < a + k → (b ≤ i ↔ p i = false) := by
  induction k generalizing a with
  | zero => exact ⟨a, le_rfl, le_rfl, by simp, fun i above below => by omega⟩
  | succ k ih =>
    rw [List.range'_succ]
    cases first : p a with
    | false =>
      -- nothing is dropped, for whatever came later would make the first number be dropped, too
      refine ⟨a, le_rfl, by omega, ?_, fun i above below => iff_of_true above ?_⟩
      · rw [List.dropWhile_cons_of_neg (by simp [first]), ← List.range'_succ]
        congr 1
        omega
      · by_contra dropped
        rcases above.lt_or_eq with later | rfl
        · have := before a i le_rfl later below (by simpa using dropped)
          simp [first] at this
        · exact dropped first
    | true =>
      obtain ⟨b, from1, to1, rest, boundary⟩ := ih (a + 1) fun i j above less below =>
        before i j (by omega) less (by omega)
      refine ⟨b, by omega, by omega, ?_, fun i above below => ?_⟩
      · rw [List.dropWhile_cons_of_pos first, rest]
        congr 1
        omega
      · rcases above.lt_or_eq with later | rfl
        · exact boundary i later (by omega)
        · exact iff_of_false (by omega) (by simp [first])

/-- The numbers from some number on, told by what they have in common. -/
theorem filter_range_eq_range' {p : ℕ → Prop} [DecidablePred p] {n a : ℕ} (within : a ≤ n)
    (boundary : ∀ i < n, (a ≤ i ↔ p i)) : (List.range n).filter p = List.range' a (n - a) := by
  have parts : List.range n = List.range' 0 a ++ List.range' a (n - a) := by
    have joined := List.range'_append_1 (s := 0) (m := a) (n := n - a)
    rw [Nat.zero_add, Nat.add_sub_cancel' within] at joined
    rw [List.range_eq_range', joined]
  rw [parts, List.filter_append, List.filter_eq_nil_iff.2, List.filter_eq_self.2, List.nil_append]
  · intro i member
    obtain ⟨above, below⟩ := List.mem_range'_1.1 member
    exact decide_eq_true ((boundary i (by omega)).1 above)
  · intro i member
    have below := (List.mem_range'_1.1 member).2
    simpa using (boundary i (by omega)).not.1 (by omega)

/-! ## §2 Room -/

variable {h : History} {v : Value} {now : Float} {window : Number}

theorem length_newest_le (n : ℕ) (xs : List Sample) : (newest n xs).length ≤ n := by
  rw [newest, List.length_drop]
  omega

theorem mem_newest_append {n : ℕ} (room : 0 < n) (xs : List Sample) (x : Sample) :
    x ∈ newest n (xs ++ [x]) := by
  rw [newest, List.length_append, List.length_singleton, List.drop_append_of_le_length (by omega)]
  exact List.mem_append_right _ (List.mem_singleton_self x)

theorem capacity?_natCast (limit : ℕ) :
    capacity? limit = if limit < 2 ^ 63 then .ok limit else .error .hugeLimit := by
  unfold capacity?
  rcases Nat.lt_or_ge limit (2 ^ 63) with fits | huge
  · rw [if_neg (by simp; omega), if_neg (by omega), if_pos fits]
    rfl
  · rw [if_pos (by simp; omega), if_neg (by omega)]

/-- There is room for the samples, and no more room than the limit allows. -/
structure WithinLimit (h : History) : Prop where
  room : h.samples.length ≤ h.capacity
  bounded : h.capacity < 2 ^ 63
  capacity : (h.capacity : Int) ≤ h.limit

namespace WithinLimit

theorem empty {limit : ℕ} (bounded : limit < 2 ^ 63) : (History.empty limit).WithinLimit :=
  ⟨Nat.zero_le _, bounded, le_rfl⟩

theorem push (within : h.WithinLimit) (s : Sample) : (h.push s).WithinLimit :=
  ⟨length_newest_le _ _, within.bounded, within.capacity⟩

theorem prune (within : h.WithinLimit) (cutoff : Number) : (h.prune cutoff).WithinLimit :=
  ⟨(List.dropWhile_sublist _).length_le.trans within.room, within.bounded, within.capacity⟩

theorem windowedMean (within : h.WithinLimit) (v : Value) (now window : Number) :
    (h.windowedMean v now window).2.WithinLimit :=
  (within.push _).prune _

/-- A limit that is refused leaves less room than it asks for. -/
theorem setLimit (within : h.WithinLimit) (limit : ℕ) : (h.setLimit limit).2.WithinLimit := by
  unfold History.setLimit
  split
  · exact within
  · rw [capacity?_natCast]
    split_ifs with fits
    · exact ⟨length_newest_le _ _, fits, le_rfl⟩
    · have bounded := within.bounded
      exact ⟨within.room, bounded, by dsimp only; omega⟩

end WithinLimit

theorem setLimit_limit (h : History) (limit : Int) : (h.setLimit limit).2.limit = limit := by
  unfold setLimit
  split
  · next same => exact (beq_iff_eq.1 same).symm
  · split <;> rfl

/-- An empty history takes every limit within 64 bits. -/
theorem setLimit_empty {before limit : ℕ} (fits : limit < 2 ^ 63) :
    ((empty before).setLimit limit).2 = empty limit := by
  unfold setLimit
  split
  · next same =>
    rw [Int.ofNat_inj.1 (beq_iff_eq.1 same)]
  · rw [capacity?_natCast, if_pos fits]
    exact congrArg (mk limit limit) List.drop_nil

/-! ## §3 Windows -/

/-- The time from which samples count in a window of some seconds. -/
def cutoff (now : Float) (window : Number) : Float := now - window.toFloat * 1000.0

theorem sub_window (now : Float) (window : Number) :
    (Number.real now).sub (window.mul (.real 1000.0)) = .real (cutoff now window) := by
  cases window <;> rfl

/-- A window that has a length does not begin after it ends. -/
theorem not_lt_cutoff (now : Float) (positive : (Number.int 0).lt window = true) :
    ¬ now < cutoff now window := by
  obtain ⟨u, value, above⟩ := Binary.zero_lt_iff.1 (Number.zero_lt_toFloat positive)
  exact Binary.not_lt_sub now (Binary.mul_thousand_nonneg (Binary.nonneg_iff.2 ⟨u, value, above.le⟩))

/-- The sample that has been recorded is in the window. -/
theorem mem_windowedMean (v : Value) (now : Float) (room : 0 < h.capacity) (positive : (Number.int 0).lt window = true) :
    ⟨v, .real now⟩ ∈ (h.windowedMean v (.real now) window).2.samples := by
  refine mem_dropWhile (mem_newest_append room _ _) ?_
  rw [sub_window]
  exact Bool.eq_false_iff.2 (Number.lt_real.not.2 (not_lt_cutoff now positive))

/-! ## §4 Runs of Calls -/

/-- The history after some calls, empty at first. -/
def recorded (limit : ℕ) (values : ℕ → Value) (times : ℕ → Float) (window : Number) : ℕ → History
  | 0 => empty limit
  | n + 1 => ((recorded limit values times window n).windowedMean (values n) (.real (times n)) window).2

/-- The calls whose samples are there after call `n`: those of the last `limit` ones whose time is not
below the cutoff of this call. -/
def retained (limit : ℕ) (times : ℕ → Float) (window : Number) (n : ℕ) : List ℕ :=
  (List.range (n + 1)).filter fun i => n < i + limit ∧ ¬ times i < cutoff (times n) window

/-- Neither the times nor the cutoffs go back in the calls up to call `n`. -/
structure Advancing (times : ℕ → Float) (window : Number) (n : ℕ) : Prop where
  forward : ∀ i < n, times i ≤ times (i + 1)
  cutoffs : ∀ i < n, cutoff (times i) window ≤ cutoff (times (i + 1)) window

variable {limit : ℕ} {values : ℕ → Value} {times : ℕ → Float} {n : ℕ}

theorem Advancing.of_succ (advancing : Advancing times window (n + 1)) : Advancing times window n :=
  ⟨fun i within => advancing.forward i (by omega), fun i within => advancing.cutoffs i (by omega)⟩

theorem Advancing.le (advancing : Advancing times window n) {i j : ℕ} (less : i < j) (within : j ≤ n) :
    times i ≤ times j := by
  induction j, less using Nat.le_induction with
  | base => exact advancing.forward i within
  | succ j less ih => exact Binary.le_trans (ih (by omega)) (advancing.forward j within)

/-- A run of samples with one more is a run again, shorter at its front if there is no room. -/
theorem newest_range' (sample : ℕ → Sample) {a : ℕ} (within : a ≤ n) (capacity : ℕ) :
    newest capacity ((List.range' a (n - a)).map sample ++ [sample n]) =
      (List.range' (max a (n + 1 - capacity)) (n + 1 - max a (n + 1 - capacity))).map sample := by
  have joined : (List.range' a (n - a)).map sample ++ [sample n] =
      (List.range' a (n + 1 - a)).map sample := by
    rw [show n + 1 - a = n - a + 1 by omega, List.range'_1_concat, List.map_append,
      show a + (n - a) = n by omega]
    rfl
  rw [joined, newest, List.length_map, List.length_range', ← List.map_drop, List.drop_range']
  congr 2 <;> omega

theorem capacity_recorded (n : ℕ) : (recorded limit values times window n).capacity = limit := by
  induction n with
  | zero => rfl
  | succ n ih => exact ih

variable (values) in
/-- **Step**: a call leaves a run of samples if it finds one. -/
theorem exists_windowedMean_range' (advancing : Advancing times window n) {a : ℕ} (within : a ≤ n)
    (samples : h.samples = (List.range' a (n - a)).map fun i => ⟨values i, .real (times i)⟩) :
    ∃ b ≤ n + 1, (h.windowedMean (values n) (.real (times n)) window).2.samples =
        (List.range' b (n + 1 - b)).map (fun i => ⟨values i, .real (times i)⟩) ∧
      ∀ i < n + 1, (b ≤ i ↔ (a ≤ i ∧ n < i + h.capacity) ∧ ¬ times i < cutoff (times n) window) := by
  have pushed := newest_range' (fun i => ⟨values i, .real (times i)⟩) within h.capacity
  rw [← samples] at pushed
  -- the run starts at `c` when the sample has been recorded, and at `b` when the old ones are gone
  generalize first : max a (n + 1 - h.capacity) = c at pushed
  obtain ⟨b, above, below, left, boundary⟩ := exists_dropWhile_range'
    (p := fun i => (Number.real (times i)).lt (.real (cutoff (times n) window))) c (n + 1 - c)
    fun i j _ less before old => by
      rw [Number.lt_real] at old ⊢
      exact Binary.lt_of_le_of_lt (advancing.le less (by omega)) old
  refine ⟨b, by omega, ?_, fun i before => ?_⟩
  · change ((newest h.capacity (h.samples ++ [⟨values n, .real (times n)⟩])).dropWhile _) = _
    rw [pushed, List.dropWhile_map, sub_window]
    refine congrArg (List.map _) (left.trans ?_)
    congr 1
    omega
  · have bound : c ≤ i ↔ a ≤ i ∧ n < i + h.capacity := by omega
    by_cases from1 : c ≤ i
    · rw [boundary i from1 (by omega), Bool.eq_false_iff, ne_eq, Number.lt_real]
      exact (and_iff_right (bound.1 from1)).symm
    · exact iff_of_false (by omega) fun kept => from1 (bound.2 kept.1)

variable (limit values) in
/-- **Run**: the history holds the samples from some call on, and the last call tells which one. -/
theorem exists_first (advancing : Advancing times window n) :
    ∃ a ≤ n + 1, (recorded limit values times window (n + 1)).samples =
        (List.range' a (n + 1 - a)).map (fun i => ⟨values i, .real (times i)⟩) ∧
      ∀ i < n + 1, (a ≤ i ↔ n < i + limit ∧ ¬ times i < cutoff (times n) window) := by
  induction n with
  | zero =>
    obtain ⟨b, below, samples, boundary⟩ :=
      exists_windowedMean_range' values advancing le_rfl (show (empty limit).samples = _ from rfl)
    refine ⟨b, below, samples, fun i within => (boundary i within).trans ?_⟩
    rw [and_iff_right (Nat.zero_le i)]
    rfl
  | succ n ih =>
    obtain ⟨a, within, earlier, before⟩ := ih advancing.of_succ
    obtain ⟨b, below, samples, boundary⟩ := exists_windowedMean_range' values advancing within earlier
    refine ⟨b, below, samples, fun i from1 => (boundary i from1).trans ?_⟩
    rw [capacity_recorded, and_assoc]
    refine and_iff_right_of_imp fun ⟨recent, young⟩ => ?_
    rcases Nat.lt_succ_iff_lt_or_eq.1 from1 with old | rfl
    · -- what is not below this cutoff was not below the one before
      exact (before i old).2 ⟨by omega, fun stale =>
        young (Binary.lt_of_lt_of_le stale (advancing.cutoffs n (Nat.lt_succ_self n)))⟩
    · exact within

/-- **Windows**: after call `n` the history holds the samples of the retained calls, in their order. -/
theorem samples_recorded (advancing : Advancing times window n) :
    (recorded limit values times window (n + 1)).samples =
      (retained limit times window n).map fun i => ⟨values i, .real (times i)⟩ := by
  obtain ⟨a, within, samples, boundary⟩ := exists_first limit values advancing
  rw [samples, retained, filter_range_eq_range' within boundary]

/-- The last call is retained, if there is room for it at all. -/
theorem mem_retained (room : 1 ≤ limit) (positive : (Number.int 0).lt window = true) :
    n ∈ retained limit times window n :=
  List.mem_filter.2 ⟨List.mem_range.2 n.lt_succ_self,
    decide_eq_true ⟨by omega, not_lt_cutoff (times n) positive⟩⟩

theorem length_recorded_le (n : ℕ) : (recorded limit values times window n).samples.length ≤ limit := by
  cases n with
  | zero => exact Nat.zero_le _
  | succ n =>
    refine (List.dropWhile_sublist _).length_le.trans ((length_newest_le _ _).trans_eq ?_)
    exact capacity_recorded n

theorem length_retained_le (advancing : Advancing times window n) :
    (retained limit times window n).length ≤ limit := by
  have length : (recorded limit (fun _ => .null) times window (n + 1)).samples.length ≤ limit :=
    length_recorded_le (n + 1)
  rwa [samples_recorded advancing, List.length_map] at length

theorem mem_retained_le {i : ℕ} (member : i ∈ retained limit times window n) : i ≤ n :=
  Nat.lt_succ_iff.1 (List.mem_range.1 (List.mem_filter.1 member).1)

variable (limit) in
/-- A call gives the mean of the samples that are retained after it. -/
theorem mean_recorded (advancing : Advancing times window n) {numbers : ℕ → Float}
    (read : ∀ i ≤ n, (values i).toFloat = .ok (numbers i)) :
    ((recorded limit values times window n).windowedMean (values n) (.real (times n)) window).1 =
      .ok (Mean.mean ((retained limit times window n).map numbers)) := by
  change (recorded limit values times window (n + 1)).mean = _
  have samples : ((recorded limit values times window (n + 1)).samples.mapM fun s => s.value.toFloat) =
      .ok ((retained limit times window n).map numbers) := by
    rw [samples_recorded advancing, Outcome.mapM_eq_ok_iff, List.forall₂_map_left_iff,
      List.forall₂_map_right_iff, List.forall₂_same]
    exact fun i member => read i (mem_retained_le member)
  rw [mean, samples]
  rfl

end History

end TickCircuit

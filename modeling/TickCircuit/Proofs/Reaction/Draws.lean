import TickCircuit.Proofs.Random.Generator
import TickCircuit.Proofs.Reaction.Courses
import TickCircuit.Proofs.Reaction.Returns

/-!
# Draws over Many Ticks

In a tick a random component draws, repeats what it drew last, or fails (`random_turn`). Over many ticks it
keeps the time and the outcome of the last draw that has not failed (`history_after`), so the next draw is
attempted when the period has passed since then, and what is emitted until then is this outcome
(`draws_on_schedule`). A failure changes neither, and with constant settings a component that has failed has
not drawn before, so it tries again in the next tick.
-/

namespace TickCircuit

namespace Dice

open Reaction (diceRule random)

/-! ## §1 One Tick -/

section Tick

variable (d : Dice) (s : Stimulus)

/-- The bounds of a draw, the smaller one first. -/
def bounds : ℤ × ℤ := (diceRule s).bounds

/-- Both bounds have 64 bits. -/
def Fits : Prop :=
  Random.Generator.holdsBound (bounds s).1 = true ∧ Random.Generator.holdsBound (bounds s).2 = true

/-- The time between two draws. -/
def period : Number := (diceRule s).periodOr s.moment.interval

/-- A draw is attempted. -/
def attempts : Bool := d.isDue (period s) s.moment.now

/-- The generator to draw with: the one that is kept, or a new one. -/
inductive Uses : Random.Generator → Prop where
  | kept {g : Random.Generator} (held : d.generator = some g) : Uses g
  | made {words : List ℕ} (none : d.generator = none)
      (seeded : seed s.moment.settings.seed s.id = .ok words) : Uses (.ofSeed words)

/-- What a random component can do in a tick. -/
inductive Turn : Reaction Dice → Prop where
  | unseeded (fault : Fault) (cannot : d.CannotSeed s.moment.settings.seed s.id) :
      Turn (.failed d s.value fault)
  | refused {g : Random.Generator} (fault : Fault) (uses : d.Uses s g) (due : d.attempts s = true)
      (beyond : ¬ Fits s) : Turn (.failed { d with generator := some g } s.value fault)
  | drawn {g g' : Random.Generator} {n : ℤ} (uses : d.Uses s g) (due : d.attempts s = true)
      (fits : Fits s) (draw : g.between (bounds s).1 (bounds s).2 = (n, g')) :
      Turn (.pins ⟨some s.moment.now, .int n, some g'⟩ s.value [("VALUE_OUT", .int n)])
  | repeated {g : Random.Generator} (uses : d.Uses s g) (early : d.attempts s = false) :
      Turn (.pins { d with generator := some g } s.value [("VALUE_OUT", d.output)])

end Tick

variable {d : Dice} {s : Stimulus}

/-- With a generator, a component draws if a draw is due, and repeats its output if none is. -/
theorem turn_of_uses {g : Random.Generator} (uses : d.Uses s g)
    (rolled : d.roll (diceRule s) s.moment.settings.seed s.id s.moment.interval s.moment.now =
      if d.attempts s then
        ({ d with generator := some g } : Dice).draw g (bounds s).1 (bounds s).2 s.moment.now
      else (.ok (), { d with generator := some g })) :
    d.Turn s (random s d) := by
  unfold diceRule at rolled
  unfold random
  dsimp only
  rw [rolled]
  cases due : d.attempts s with
  | false => exact .repeated uses due
  | true =>
    -- the lower bound is looked at first, and the other one only if this fits
    rw [if_pos rfl, draw]
    cases low : Random.Generator.holdsBound (bounds s).1 with
    | false => exact .refused _ uses due fun fits => Bool.false_ne_true (low.symm.trans fits.1)
    | true =>
      cases high : Random.Generator.holdsBound (bounds s).2 with
      | false => exact .refused _ uses due fun fits => Bool.false_ne_true (high.symm.trans fits.2)
      | true => exact .drawn uses due ⟨low, high⟩ rfl

/-- **Step**: in a tick a random component draws, repeats its output, or fails. -/
theorem random_turn (d : Dice) (s : Stimulus) : d.Turn s (random s d) := by
  cases held : d.generator with
  | some g => exact turn_of_uses (.kept held) (by unfold roll; rw [held]; rfl)
  | none =>
    cases seeded : seed s.moment.settings.seed s.id with
    | ok words => exact turn_of_uses (.made held seeded) (by unfold roll; rw [held, seeded]; rfl)
    | error e =>
      have cannot : s.moment.settings.seed.isSome = true ∧ ∀ name, s.id ≠ .text name := by
        by_contra can
        obtain ⟨words, made⟩ := exists_seed_iff.2 can
        rw [seeded] at made
        cases made
      have failed : random s d = .failed d s.value e := by
        unfold random roll
        rw [held, seeded]
        rfl
      rw [failed]
      exact .unseeded e ⟨held, cannot⟩

/-- A component that has not drawn yet attempts a draw. -/
theorem attempts_of_lastDraw_eq_none (none : d.lastDraw = none) (s : Stimulus) :
    d.attempts s = true := by
  rw [attempts, isDue, none]

theorem attempts_of_lastDraw_eq_some {time : Float} (some : d.lastDraw = some time) (s : Stimulus) :
    d.attempts s = (period s).le (.real (s.moment.now - time)) := by
  rw [attempts, isDue, some]

/-- The bounds are what the settings read as, or zero, the smaller one first. -/
theorem bounds_eq (s : Stimulus) :
    bounds s = (min ((s.setting "min").wholeReading?.getD 0) ((s.setting "max").wholeReading?.getD 0),
      max ((s.setting "min").wholeReading?.getD 0) ((s.setting "max").wholeReading?.getD 0)) := by
  unfold bounds Rule.bounds
  dsimp only [diceRule]
  split
  · next less => rw [Int.min_eq_right (Int.le_of_lt less), Int.max_eq_left (Int.le_of_lt less)]
  · next less => rw [Int.min_eq_left (Int.not_lt.1 less), Int.max_eq_right (Int.not_lt.1 less)]

theorem bounds_ordered (s : Stimulus) : (bounds s).1 ≤ (bounds s).2 := by
  rw [bounds_eq]
  exact Int.le_trans (Int.min_le_left _ _) (Int.le_max_left _ _)

theorem fits_iff (s : Stimulus) :
    Fits s ↔
      Random.Generator.holdsBound ((s.setting "min").wholeReading?.getD 0) = true ∧
        Random.Generator.holdsBound ((s.setting "max").wholeReading?.getD 0) = true := by
  unfold Fits bounds Rule.bounds
  dsimp only [diceRule]
  split
  · exact and_comm
  · rfl

/-! ## §2 What Is Kept -/

/-- A state that is reached: its generator is sound, and without a generator there has been no draw. -/
structure Sound (d : Dice) : Prop where
  generator : ∀ g ∈ d.generator, g.Sound
  unmade : d.generator = none → d.lastDraw = none

theorem Uses.sound {g : Random.Generator} (sound : d.Sound) (uses : d.Uses s g) : g.Sound := by
  cases uses with
  | kept held => exact sound.generator g held
  | made none seeded => exact Random.Generator.ofSeed_sound _

/-- **Step**: soundness is preserved. -/
theorem Turn.sound {r : Reaction Dice} (turn : d.Turn s r) (sound : d.Sound) : r.state.Sound := by
  have filled {g : Random.Generator} (uses : d.Uses s g) :
      ({ d with generator := some g } : Dice).Sound :=
    ⟨fun g' same => Option.some.inj same ▸ uses.sound sound, nofun⟩
  cases turn with
  | unseeded fault cannot => exact sound
  | refused fault uses due beyond => exact filled uses
  | repeated uses early => exact filled uses
  | drawn uses due fits draw =>
    have next := (Random.Generator.between_within (uses.sound sound) (bounds_ordered s)).2
    rw [draw] at next
    exact ⟨fun g' same => Option.some.inj same ▸ next, nofun⟩

/-- The draw of a tick does not fail. -/
def Succeeds (d : Dice) (s : Stimulus) : Prop :=
  d.attempts s = true ∧ ∃ out, (random s d).outputs = .ok out

/-- **Step**: a draw that does not fail is within its bounds; it is emitted and kept, with its time. -/
theorem Succeeds.draws (succeeds : d.Succeeds s) (sound : d.Sound) :
    Fits s ∧ ∃ n : ℤ, ((bounds s).1 ≤ n ∧ n ≤ (bounds s).2) ∧
      (random s d).outputs = .ok (some [("VALUE_OUT", .int n)]) ∧
      (random s d).state.output = .int n ∧ (random s d).state.lastDraw = some s.moment.now := by
  obtain ⟨due, out, emitted⟩ := succeeds
  have turn := random_turn d s
  generalize random s d = r at turn emitted ⊢
  cases turn with
  | unseeded | refused => cases emitted
  | repeated uses early => exact absurd due (Bool.eq_false_iff.1 early)
  | @drawn g g' n uses due fits draw =>
    have within := (Random.Generator.between_within (uses.sound sound) (bounds_ordered s)).1
    rw [draw] at within
    exact ⟨fits, n, within, rfl, rfl, rfl⟩

/-- **Step**: in any other tick the output and the time of the last draw are kept. -/
theorem keeps_of_not_succeeds (not : ¬ d.Succeeds s) :
    (random s d).state.output = d.output ∧ (random s d).state.lastDraw = d.lastDraw := by
  have turn := random_turn d s
  unfold Succeeds at not
  generalize random s d = r at turn not ⊢
  cases turn with
  | drawn uses due fits draw => exact absurd ⟨due, _, rfl⟩ not
  | _ => exact ⟨rfl, rfl⟩

/-- An attempt that is not a draw ends in a fault. -/
theorem exists_fault_of_not_succeeds (due : d.attempts s = true) (not : ¬ d.Succeeds s) :
    ∃ fault, (random s d).outputs = .error fault := by
  cases emitted : (random s d).outputs with
  | error fault => exact ⟨fault, rfl⟩
  | ok out => exact absurd ⟨due, out, emitted⟩ not

/-- **Step**: a tick without an attempt repeats the output and changes nothing, once there is a generator. -/
theorem repeats_of_not_attempts (early : d.attempts s = false) (sound : d.Sound) :
    (random s d).outputs = .ok (some [("VALUE_OUT", d.output)]) ∧ (random s d).state = d := by
  have drawn : d.lastDraw ≠ none := fun none =>
    absurd (attempts_of_lastDraw_eq_none none s) (Bool.eq_false_iff.1 early)
  have turn := random_turn d s
  generalize random s d = r at turn ⊢
  cases turn with
  | unseeded fault cannot => exact absurd (sound.unmade cannot.1) drawn
  | refused fault uses due beyond => exact absurd due (Bool.eq_false_iff.1 early)
  | drawn uses due fits draw => exact absurd due (Bool.eq_false_iff.1 early)
  | repeated uses early =>
    cases uses with
    | kept held =>
      rw [← held]
      exact ⟨rfl, rfl⟩
    | made none seeded => exact absurd (sound.unmade none) drawn

/-- A draw that is attempted does not fail if there is a generator and its bounds fit. -/
theorem succeeds_iff (due : d.attempts s = true) :
    d.Succeeds s ↔ ¬ d.CannotSeed s.moment.settings.seed s.id ∧ Fits s := by
  have turn := random_turn d s
  unfold Succeeds
  generalize random s d = r at turn ⊢
  have canSeed {g : Random.Generator} (uses : d.Uses s g) : ¬ d.CannotSeed s.moment.settings.seed s.id := by
    rintro ⟨none, cannot⟩
    cases uses with
    | kept held => simp [none] at held
    | made _ seeded => exact exists_seed_iff.1 ⟨_, seeded⟩ cannot
  cases turn with
  | unseeded fault cannot => exact iff_of_false nofun fun can => can.1 cannot
  | refused fault uses due beyond => exact iff_of_false nofun fun can => beyond can.2
  | drawn uses due fits draw => exact iff_of_true ⟨due, _, rfl⟩ ⟨canSeed uses, fits⟩
  | repeated uses early => exact absurd due (Bool.eq_false_iff.1 early)

/-! ## §3 Runs -/

section Runs

variable (course : Course) (start : Dice)

/-- The component after some ticks. -/
abbrev after (n : ℕ) : Dice := Reaction.stateAfter random course start n

/-- In tick `i` there is a draw that does not fail. -/
def Draws (i : ℕ) : Prop := (after course start i).Succeeds (course i)

/-- Tick `j` is the last of the first `n` ticks with a draw that does not fail. -/
structure LastDraw (n j : ℕ) : Prop where
  before : j < n
  draws : Draws course start j
  last : ∀ i, j < i → i < n → ¬ Draws course start i

end Runs

variable {course : Course} {start : Dice} {settings initial : Record} {n : ℕ}

theorem LastDraw.succ {j : ℕ} (last : LastDraw course start n j) (not : ¬ Draws course start n) :
    LastDraw course start (n + 1) j where
  before := Nat.lt_succ_of_lt last.before
  draws := last.draws
  last i after before := by
    rcases Nat.lt_succ_iff_lt_or_eq.1 before with less | rfl
    · exact last.last i after less
    · exact not

theorem LastDraw.unique {i j : ℕ} (first : LastDraw course start n i) (second : LastDraw course start n j) :
    i = j := by
  rcases lt_trichotomy i j with less | same | less
  · exact absurd second.draws (first.last j less second.before)
  · exact same
  · exact absurd first.draws (second.last i less first.before)

/-- **Run**: the states of a run are sound. -/
theorem sound_after (starts : Shape.random.initial initial = .ok start) (n : ℕ) :
    (after course start n).Sound := by
  induction n with
  | zero =>
    cases starts
    exact ⟨nofun, fun _ => rfl⟩
  | succ n ih => exact (random_turn _ _).sound ih

/-- **Run**: the time and the outcome of the last draw are kept. -/
theorem history_after (starts : Shape.random.initial initial = .ok start) (n : ℕ) :
    ((∀ i < n, ¬ Draws course start i) ∧ (after course start n).lastDraw = none) ∨
      ∃ j, LastDraw course start n j ∧
        (after course start n).lastDraw = some (course j).moment.now ∧
        (after course start n).output = (after course start (j + 1)).output := by
  induction n with
  | zero =>
    cases starts
    exact .inl ⟨nofun, rfl⟩
  | succ n ih =>
    by_cases draws : Draws course start n
    -- only a draw that does not fail changes what is remembered
    · obtain ⟨-, m, -, -, -, time⟩ := draws.draws (sound_after starts n)
      exact .inr ⟨n, ⟨n.lt_succ_self, draws, fun i after before => absurd before (by omega)⟩, time, rfl⟩
    · obtain ⟨output, time⟩ := keeps_of_not_succeeds draws
      rcases ih with ⟨never, untimed⟩ | ⟨j, last, timed, kept⟩
      · exact .inl ⟨Nat.forall_lt_succ_right.2 ⟨never, draws⟩, time.trans untimed⟩
      · exact .inr ⟨j, last.succ draws, time.trans timed, output.trans kept⟩

theorem lastDraw_eq_none (starts : Shape.random.initial initial = .ok start)
    (never : ∀ i < n, ¬ Draws course start i) : (after course start n).lastDraw = none := by
  rcases history_after starts n with ⟨-, untimed⟩ | ⟨j, last, -⟩
  · exact untimed
  · exact absurd last.draws (never j last.before)

theorem LastDraw.kept (starts : Shape.random.initial initial = .ok start) {j : ℕ}
    (last : LastDraw course start n j) :
    (after course start n).lastDraw = some (course j).moment.now ∧
      (after course start n).output = (after course start (j + 1)).output := by
  rcases history_after starts n with ⟨never, -⟩ | ⟨k, last', kept⟩
  · exact absurd last.draws (never j last.before)
  · rw [last.unique last']
    exact kept

/-- Without an attempt there has been a draw. -/
theorem exists_lastDraw (starts : Shape.random.initial initial = .ok start)
    (early : (after course start n).attempts s = false) : ∃ j, LastDraw course start n j := by
  rcases history_after starts n with ⟨-, untimed⟩ | ⟨j, last, -⟩
  · exact absurd (attempts_of_lastDraw_eq_none untimed s) (Bool.eq_false_iff.1 early)
  · exact ⟨j, last⟩

/-- Where the bounds fit in all ticks or in none, no draw fails after one that has not. -/
theorem lastDraw_eq_none_of_fails (starts : Shape.random.initial initial = .ok start)
    (alike : ∀ i j, Fits (course i) → Fits (course j))
    (due : (after course start n).attempts (course n) = true) (fails : ¬ Draws course start n) :
    (after course start n).lastDraw = none := by
  rcases history_after starts n with ⟨-, untimed⟩ | ⟨j, last, timed, -⟩
  · exact untimed
  · -- there has been a draw, so there is a generator and the bounds fit
    have made : (after course start n).generator ≠ none := fun none => by
      have untimed := (sound_after starts n).unmade none
      rw [timed] at untimed
      cases untimed
    have fits := (last.draws.draws (sound_after starts j)).1
    exact absurd ((succeeds_iff due).2 ⟨fun cannot => made cannot.1, alike j n fits⟩) fails

/-- **Draws**: let the settings be constant, and consider a run from the initial state. A draw is attempted in
each tick before the first one that does not fail, so in the first tick, and then exactly in each tick in which
the period has passed since the last draw that did not fail. Such a draw lies between the bounds, whichever is
the smaller one, and is emitted and kept. A tick without an attempt repeats what was drawn last, and changes
nothing. A draw that fails leaves the output and the time of the last draw as they are, and is attempted again
in the next tick. An attempt fails only if a bound is beyond 64 bits, or if there is no generator and none can
be made. -/
theorem draws_on_schedule (starts : Shape.random.initial initial = .ok start)
    (constant : ∀ i, (course i).settings = settings) :
    let low := (settings.setting "min").wholeReading?.getD 0
    let high := (settings.setting "max").wholeReading?.getD 0
    let now i := (course i).moment.now
    let dice := after course start
    let tick i := random (course i) (dice i)
    let attempted i := (dice i).attempts (course i) = true
    let drawn := Draws course start
    (∀ i, (∀ j < i, ¬ drawn j) → attempted i) ∧
      (∀ i j, LastDraw course start i j →
        (attempted i ↔ (period (course i)).le (.real (now i - now j)) = true)) ∧
      (∀ i, drawn i → attempted i ∧ ∃ n : ℤ, (min low high ≤ n ∧ n ≤ max low high) ∧
        (tick i).outputs = .ok (some [("VALUE_OUT", .int n)]) ∧
        (dice (i + 1)).output = .int n ∧ (dice (i + 1)).lastDraw = some (now i)) ∧
      (∀ i, ¬ attempted i → ∃ j, LastDraw course start i j ∧
        (tick i).outputs = .ok (some [("VALUE_OUT", (dice (j + 1)).output)]) ∧ dice (i + 1) = dice i) ∧
      (∀ i, attempted i → ¬ drawn i → (∃ fault, (tick i).outputs = .error fault) ∧
        (dice (i + 1)).output = (dice i).output ∧ (dice (i + 1)).lastDraw = (dice i).lastDraw ∧
        attempted (i + 1)) ∧
      ∀ i, attempted i → (drawn i ↔ ¬ (dice i).CannotSeed (course i).moment.settings.seed (course i).id ∧
        Random.Generator.holdsBound low = true ∧ Random.Generator.holdsBound high = true) := by
  intro low high now dice tick attempted drawn
  have min (i : ℕ) : (course i).setting "min" = settings.setting "min" := by rw [← constant i]; rfl
  have max (i : ℕ) : (course i).setting "max" = settings.setting "max" := by rw [← constant i]; rfl
  have fits (i : ℕ) : Fits (course i) ↔
      Random.Generator.holdsBound low = true ∧ Random.Generator.holdsBound high = true := by
    rw [fits_iff, min, max]
  refine ⟨fun i never => ?_, fun i j last => ?_, fun i draws => ?_, fun i early => ?_,
    fun i due fails => ?_, fun i due => ?_⟩
  · exact attempts_of_lastDraw_eq_none (lastDraw_eq_none starts never) _
  · exact Bool.coe_iff_coe.2 (attempts_of_lastDraw_eq_some (last.kept starts).1 _)
  · obtain ⟨-, n, within, emitted, kept, timed⟩ := draws.draws (sound_after starts i)
    rw [bounds_eq, min, max] at within
    exact ⟨draws.1, n, within, emitted, kept, timed⟩
  · have early := Bool.eq_false_iff.2 early
    obtain ⟨emitted, still⟩ := repeats_of_not_attempts early (sound_after starts i)
    obtain ⟨j, last⟩ := exists_lastDraw starts early
    rw [(last.kept starts).2] at emitted
    exact ⟨j, last, emitted, still⟩
  · -- with constant bounds a failure comes before the first draw, and there is still none after it
    obtain ⟨kept, time⟩ := keeps_of_not_succeeds fails
    have alike (i j : ℕ) (fit : Fits (course i)) : Fits (course j) := (fits j).2 ((fits i).1 fit)
    have untimed := lastDraw_eq_none_of_fails starts alike due fails
    exact ⟨exists_fault_of_not_succeeds due fails, kept, time,
      attempts_of_lastDraw_eq_none (time.trans untimed) _⟩
  · exact (succeeds_iff due).trans (and_congr_right' (fits i))

/-- Bounds in descending order and a period of two ticks: the first tick draws, the second one repeats what has
been drawn, and the third one attempts a draw again. -/
theorem draws_on_schedule_of_two_ticks :
    let fields := [("min", .text "9"), ("max", .int 4), ("period", .text "200")]
    let course := Course.ofInputs fields fun _ => []
    let start : Dice := ⟨none, .absent, none⟩
    (∃ n : ℤ, (4 ≤ n ∧ n ≤ 9) ∧
      (random (course 0) start).outputs = .ok (some [("VALUE_OUT", .int n)])) ∧
      after course start 2 = after course start 1 ∧
      (after course start 2).attempts (course 2) = true := by
  intro fields course start
  have starts : Shape.random.initial [] = .ok start := rfl
  have low : ((Record.ofFields fields).setting "min").wholeReading?.getD 0 = 9 := by decide +kernel
  have high : ((Record.ofFields fields).setting "max").wholeReading?.getD 0 = 4 := by decide +kernel
  have constant (i : ℕ) : (course i).settings = Record.ofFields fields := rfl
  obtain ⟨first, -, draws, repeats, -, succeeds⟩ := draws_on_schedule starts constant
  have drawn : Draws course start 0 :=
    (succeeds 0 (first 0 nofun)).2 ⟨fun cannot => Bool.false_ne_true cannot.2.1, by decide +kernel⟩
  obtain ⟨-, n, within, emitted, -, timed⟩ := draws 0 drawn
  rw [low, high] at within
  have early : ¬ (after course start 1).attempts (course 1) = true := by
    rw [attempts_of_lastDraw_eq_some timed]
    decide +kernel
  obtain ⟨-, -, -, still⟩ := repeats 1 early
  have again : (after course start 1).attempts (course 2) = true := by
    rw [attempts_of_lastDraw_eq_some timed]
    decide +kernel
  refine ⟨⟨n, within, emitted⟩, still, ?_⟩
  rwa [← still] at again

end Dice

end TickCircuit

import TickCircuit.Proofs.Reaction.Courses
import TickCircuit.Proofs.Reaction.Fallbacks

/-!
# Patterns in Continuous Mode

In continuous mode a pattern that finds no signal emits again what it emitted last. What it emitted has been
cut to the greatest length already, so it is not cut any further (`Value.cut_cut`), and it comes out in every
tick up to the next signal (`matching_repeats`).

An empty text is the exception. It is not told apart from nothing, and a pattern that emitted an empty text
goes on with the text for no match (`matching_forgets_empty`).
-/

namespace TickCircuit

/-! ## §1 Texts that are Cut -/

namespace Value

@[simp]
theorem signalText_text (s : String) : (text s).signalText = s := by
  by_cases empty : s = ""
  · rw [empty]
    rfl
  · simp [signalText, isPresent, empty, display]

/-- A text that has been cut is not cut any further. -/
theorem cutText_cutText (s : String) (limit : Option Int) :
    cutText (cutText s limit) limit = cutText s limit := by
  cases limit with
  | none => rfl
  | some n =>
    by_cases positive : 0 < n
    · simp [cutText, positive, List.take_take]
    · simp [cutText, positive]

theorem cut_cut (v maxLength : Value) :
    (text (v.cut maxLength)).cut maxLength = v.cut maxLength := by
  unfold cut
  rw [signalText_text, cutText_cutText]

end Value

/-- Whatever a pattern chooses to emit is cut in the end. -/
theorem Matching.Rule.exists_cut {r : Rule} {last signal v : Value} (result : r.emit last signal = .ok v) :
    ∃ w : Value, v = .text (w.cut r.maxLength) := by
  unfold emit at result
  dsimp only at result
  split at result
  · obtain ⟨w, -, cut⟩ := Outcome.bind_eq_ok.1 result
    cases cut
    exact ⟨w, rfl⟩
  · split at result
    · cases result
      exact ⟨_, rfl⟩
    · cases result
      exact ⟨_, rfl⟩

/-! ## §2 From Tick to Tick -/

namespace Reaction

section Steps

variable {s s' : Stimulus} {last v : Value}

/-- What a pattern emits is a text that has been cut, and it is kept as the state and shown as the value. -/
theorem matching_of_emitted (emitted : (matching s last).emitted "SIGNAL_OUT" = .ok v) :
    (∃ w, v = patternText s w) ∧ (matching s last).state = v ∧ (matching s last).value = v := by
  unfold matching at emitted ⊢
  dsimp only at emitted ⊢
  generalize rule : Matching.Rule.mk _ _ _ _ _ _ _ = r at emitted ⊢
  have limit : r.maxLength = s.setting "maxOutputLength" := by rw [← rule]
  cases result : r.emit last (s.input "SIGNAL_IN") with
  | error e =>
    rw [result] at emitted
    cases emitted
  | ok u =>
    rw [result] at emitted
    simp only [emitted_signal, Option.getD_some, Except.ok.injEq] at emitted
    subst emitted
    obtain ⟨w, cut⟩ := Matching.Rule.exists_cut result
    exact ⟨⟨w, by rw [cut, limit, patternText]⟩, rfl, rfl⟩

/-- So the emission is known if its text is. -/
theorem matching_emitted_of_display {t : String}
    (shown : ((matching s last).emitted "SIGNAL_OUT").toOption.map Value.display = some t) :
    (matching s last).emitted "SIGNAL_OUT" = .ok (.text t) := by
  cases emitted : (matching s last).emitted "SIGNAL_OUT" with
  | error e =>
    rw [emitted] at shown
    cases shown
  | ok v =>
    obtain ⟨⟨w, rfl⟩, -⟩ := matching_of_emitted emitted
    rw [emitted] at shown
    cases shown
    rfl

/-- What a pattern in continuous mode emits without a signal after it has emitted `v`. -/
def again (s : Stimulus) (v : Value) : Value :=
  if v.isPresent then v else patternText s (s.setting "falseOutput")

/-- Of what has been emitted again nothing is lost the next time. -/
theorem again_again (s : Stimulus) (v : Value) : again s (again s v) = again s v := by
  unfold again
  split
  · rfl
  · split <;> rfl

/-- A tick without a signal, in the state that an emission under the same settings has left. -/
theorem matching_again (settings : s'.settings = s.settings)
    (continuous : (s.setting "continuousOutput").truthy = true)
    (missing : (s'.input "SIGNAL_IN").isPresent = false) {w : Value} (cut : v = patternText s w) :
    (matching s' v).emitted "SIGNAL_OUT" = .ok (again s v) := by
  have same (name : String) : s'.setting name = s.setting name := by
    unfold Stimulus.setting
    rw [settings]
  have texts (u : Value) : patternText s' u = patternText s u := by
    unfold patternText
    rw [same]
  rw [emitted_matching_missing missing, same, same, continuous, Bool.true_and, texts, again]
  cases present : v.isPresent with
  | false => simp
  | true =>
    -- the last text is cut once more, which changes nothing
    have kept : patternText s v = v := by
      rw [cut]
      unfold patternText
      rw [Value.cut_cut]
    simp [kept]

end Steps

/-! ## §3 Many Ticks -/

/-- How a pattern reacts in tick `n` of a course. -/
def matchingIn (course : Course) (start : Value) (n : ℕ) : Reaction Value :=
  ofKind (course n) .regEx (stateAfter (fun s last => ofKind s .regEx last) course start n)

section Courses

variable {course : Course} {start v : Value} {n : ℕ}

/-- In tick `n` the pattern emits `v` and shows it as its value. -/
def EmitsIn (course : Course) (start : Value) (n : ℕ) (v : Value) : Prop :=
  (matchingIn course start n).emitted "SIGNAL_OUT" = .ok v ∧ (matchingIn course start n).value = v

theorem emitsIn_of_emitted (emitted : (matchingIn course start n).emitted "SIGNAL_OUT" = .ok v) :
    EmitsIn course start n v :=
  ⟨emitted, (matching_of_emitted emitted).2.2⟩

/-- One tick without a signal. -/
theorem emitsIn_succ (constant : ∀ i, (course i).settings = (course 0).settings)
    (continuous : ((course 0).setting "continuousOutput").truthy = true)
    (before : EmitsIn course start n v)
    (missing : ((course (n + 1)).input "SIGNAL_IN").isPresent = false) :
    EmitsIn course start (n + 1) (again (course 0) v) := by
  obtain ⟨⟨w, cut⟩, state, -⟩ := matching_of_emitted before.1
  have texts : patternText (course n) w = patternText (course 0) w := by
    unfold patternText Stimulus.setting
    rw [constant n]
  have found : stateAfter (fun s last => ofKind s .regEx last) course start (n + 1) = v := state
  apply emitsIn_of_emitted
  unfold matchingIn
  rw [found]
  exact matching_again (constant (n + 1)) continuous missing (cut.trans texts)

/-- Ticks without a signal, by induction on their number: what is emitted again in the first of them stays. -/
theorem emitsIn_of_missing (constant : ∀ i, (course i).settings = (course 0).settings)
    (continuous : ((course 0).setting "continuousOutput").truthy = true)
    (before : EmitsIn course start n v) (k : ℕ)
    (missing : ∀ i, n < i → i ≤ n + k + 1 → ((course i).input "SIGNAL_IN").isPresent = false) :
    EmitsIn course start (n + k + 1) (again (course 0) v) := by
  induction k with
  | zero => exact emitsIn_succ constant continuous before (missing (n + 1) (by omega) (by omega))
  | succ k ih =>
    have held := ih fun i after within => missing i after (by omega)
    have next := emitsIn_succ constant continuous held (missing _ (by omega) (by omega))
    rw [again_again] at next
    exact next

/-- **Continuous mode**: after a tick in which a pattern has emitted a text, it emits the same text in every
tick up to the next signal, and shows it as its value. If the text is empty, it emits its text for no match
instead. The settings do not change; the state in which the pattern started does not matter, nor does what
came before. -/
theorem matching_repeats (constant : ∀ i, (course i).settings = (course 0).settings)
    (continuous : ((course 0).setting "continuousOutput").truthy = true)
    (before : (matchingIn course start n).emitted "SIGNAL_OUT" = .ok v) (k : ℕ)
    (missing : ∀ i, n < i → i ≤ n + k + 1 → ((course i).input "SIGNAL_IN").isPresent = false) :
    (v ≠ .text "" → EmitsIn course start (n + k + 1) v) ∧
      (v = .text "" → EmitsIn course start (n + k + 1)
        (patternText (course 0) ((course 0).setting "falseOutput"))) := by
  have emits := emitsIn_of_missing constant continuous (emitsIn_of_emitted before) k missing
  obtain ⟨⟨w, rfl⟩, -, -⟩ := matching_of_emitted before
  constructor
  · intro nonempty
    have present : (patternText (course n) w).isPresent = true := by
      simpa [patternText, Value.isPresent] using nonempty
    rwa [again, if_pos present] at emits
  · intro empty
    rw [empty] at emits
    exact emits

/-- A text that is cut to two characters is emitted in the two ticks that follow. -/
theorem matching_repeats_cut_text :
    let course := Course.ofInputs [("expression", .text "a+"), ("output", .text "hit"),
        ("falseOutput", .text "miss"), ("continuousOutput", .int 1), ("maxOutputLength", .int 2)]
      fun i => if i = 0 then [("SIGNAL_IN", .text "baa")] else []
    (matchingIn course .absent 0).emitted "SIGNAL_OUT" = .ok (.text "hi") ∧
      EmitsIn course .absent 2 (.text "hi") := by
  intro course
  have before : (matchingIn course .absent 0).emitted "SIGNAL_OUT" = .ok (.text "hi") :=
    matching_emitted_of_display (by decide +kernel)
  have missing (i : ℕ) (after : 0 < i) (_ : i ≤ 0 + 1 + 1) :
      ((course i).input "SIGNAL_IN").isPresent = false := by
    have none : (course i).inputs = [] := if_neg after.ne'
    rw [Stimulus.input, none]
    rfl
  have repeated := matching_repeats (fun _ => rfl) (by decide) before 1 missing
  exact ⟨before, repeated.1 (by simp)⟩

/-- An empty text is not emitted again: the text for no match takes its place. -/
theorem matching_forgets_empty :
    let course := Course.ofInputs [("output", .text ""), ("falseOutput", .text "0"),
        ("continuousOutput", .flag true)]
      fun i => if i = 0 then [("SIGNAL_IN", .text "a")] else []
    ((course 0).setting "continuousOutput").truthy = true ∧
      (matchingIn course .absent 0).emitted "SIGNAL_OUT" = .ok (.text "") ∧
      ((course 1).input "SIGNAL_IN").isPresent = false ∧
      EmitsIn course .absent 1 (.text "0") := by
  intro course
  exact ⟨rfl, rfl, rfl, rfl, rfl⟩

end Courses

end Reaction

end TickCircuit

import Mathlib.Data.List.Induction
import TickCircuit.Engine.Tick

/-!
# What Is Sent in a Tick

Of several signals sent on a channel in one tick the last one is heard. So after the components have
had their turns, the signal on a channel is one that some component has sent in this tick, or, when
none has sent any, the one from before (`broadcast_cases`).
-/

namespace TickCircuit

/-! ## §1 Channels -/

theorem Channels.get?_put (cs : Channels) (channel other : Int) (v : Value) :
    (cs.put channel v).get? other = if other = channel then some v else cs.get? other := by
  unfold Channels.get?
  -- the entry of a channel stays where it is, so the other channels are found as before
  induction cs with
  | nil =>
    rw [Channels.put, List.lookup_cons, List.lookup_nil]
    by_cases same : other = channel
    · simp [same]
    · simp [same, beq_eq_false_iff_ne.2 same]
  | cons entry rest ih =>
    obtain ⟨c, w⟩ := entry
    rw [Channels.put]
    by_cases here : c = channel
    · subst here
      rw [if_pos (beq_self_eq_true c), List.lookup_cons, List.lookup_cons]
      by_cases same : other = c
      · simp [same]
      · simp [same, beq_eq_false_iff_ne.2 same]
    · rw [if_neg (by simpa using here), List.lookup_cons, List.lookup_cons, ih]
      by_cases same : other = c
      · simp [same, here]
      · simp [beq_eq_false_iff_ne.2 same]

/-- What is present as a signal is that signal. -/
theorem Value.asSignal_of_isPresent {v : Value} (h : v.asSignal.isPresent = true) :
    v.asSignal = v := by
  unfold Value.asSignal at h ⊢
  split
  · rfl
  · next absent =>
    rw [if_neg absent] at h
    cases h

theorem Value.asSignal_of_not_isPresent {v : Value} (h : ¬ v.asSignal.isPresent = true) :
    v.asSignal = .absent := by
  unfold Value.asSignal at h ⊢
  split
  · next present =>
    rw [if_pos present] at h
    exact absurd present h
  · rfl

/-- What is heard on a channel with a present signal is that signal. -/
theorem Channels.get?_of_hear {cs : Channels} {channel : Int}
    (h : (cs.hear channel).isPresent = true) : cs.get? channel = some (cs.hear channel) := by
  unfold Channels.hear at h ⊢
  rw [Value.asSignal_of_isPresent h]
  cases found : cs.get? channel with
  | none =>
    rw [found] at h
    cases h
  | some v => rfl

/-! ## §2 Sending -/

/-- The signal that the part of a component puts on a channel, if it does. -/
def Part.sends? (p : Part) (channel : Int) : Option Value :=
  match p.sent with
  | some (c, v) => if c = channel ∧ v.isPresent = true then some v else none
  | none => none

theorem Part.sends?_eq_some_iff {p : Part} {channel : Int} {v : Value} :
    p.sends? channel = some v ↔ p.sent = some (channel, v) ∧ v.isPresent = true := by
  unfold Part.sends?
  cases sent : p.sent with
  | none => simp
  | some s =>
    obtain ⟨c, w⟩ := s
    simp only [Option.some.injEq, Prod.mk.injEq]
    constructor
    · intro h
      split at h
      · next both =>
        cases h
        exact ⟨⟨both.1, rfl⟩, both.2⟩
      · cases h
    · rintro ⟨⟨rfl, rfl⟩, present⟩
      rw [if_pos ⟨rfl, present⟩]

/-- The broadcast after one more part. -/
def Part.addTo (b : Broadcast) (p : Part) : Broadcast :=
  match p.sent with
  | some (channel, v) => b.send channel v
  | none => b

theorem Part.addTo_previous (b : Broadcast) (p : Part) : (addTo b p).previous = b.previous := by
  unfold addTo
  split
  · unfold Broadcast.send
    split <;> rfl
  · rfl

theorem Part.addTo_current (b : Broadcast) (p : Part) (channel : Int) :
    (addTo b p).current.get? channel = (p.sends? channel).or (b.current.get? channel) := by
  unfold addTo sends?
  cases p.sent with
  | none => rfl
  | some s =>
    obtain ⟨c, v⟩ := s
    dsimp only
    unfold Broadcast.send
    by_cases present : v.isPresent = true
    · rw [if_pos present]
      dsimp only
      rw [Channels.get?_put]
      by_cases here : channel = c
      · rw [if_pos here, if_pos ⟨here.symm, present⟩]
        rfl
      · rw [if_neg here, if_neg fun both => here both.1.symm]
        rfl
    · rw [if_neg present, if_neg fun both => present both.2]
      rfl

namespace Sweep

theorem broadcast_eq_foldl (s : Sweep) (b : Broadcast) :
    s.broadcast b = (s.parts.map Prod.snd).foldl Part.addTo b := by
  rw [List.foldl_map]
  rfl

/-- What was sent before the tick stays audible while it goes on. -/
@[simp] theorem broadcast_previous (s : Sweep) (b : Broadcast) :
    (s.broadcast b).previous = b.previous := by
  rw [broadcast_eq_foldl]
  generalize s.parts.map Prod.snd = parts
  induction parts generalizing b with
  | nil => rfl
  | cons p rest ih => rw [List.foldl_cons, ih, Part.addTo_previous]

/-- The signal on a channel after the turns: one that was sent in them, or the one from before when
none was. -/
theorem broadcast_cases (s : Sweep) (b : Broadcast) (channel : Int) :
    (∃ x ∈ s.parts, ∃ v, x.2.sends? channel = some v ∧
      (s.broadcast b).current.get? channel = some v) ∨
    ((∀ x ∈ s.parts, x.2.sends? channel = none) ∧
      (s.broadcast b).current.get? channel = b.current.get? channel) := by
  rw [broadcast_eq_foldl]
  generalize s.parts = parts
  -- from the last part backwards, for the last one to send is heard
  induction parts using List.reverseRecOn with
  | nil => exact .inr ⟨by simp, rfl⟩
  | append_singleton parts x ih =>
    rw [List.map_append, List.map_singleton, List.foldl_append, List.foldl_cons, List.foldl_nil,
      Part.addTo_current]
    cases sends : x.2.sends? channel with
    | some v => exact .inl ⟨x, by simp, v, sends, rfl⟩
    | none =>
      rw [Option.none_or]
      rcases ih with ⟨y, hy, v, sent, heard⟩ | ⟨silent, before⟩
      · exact .inl ⟨y, List.mem_append_left _ hy, v, sent, heard⟩
      · refine .inr ⟨?_, before⟩
        intro y hy
        rcases List.mem_append.1 hy with earlier | last
        · exact silent y earlier
        · rw [List.mem_singleton.1 last]
          exact sends

end Sweep

end TickCircuit

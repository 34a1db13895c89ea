import TickCircuit.Engine.Settings
import TickCircuit.Proofs.Value.Table

/-!
# Settings That Are Acceptable

What the settings of an engine may be is said by predicates on values (`Value.IsInterval` and those after
it). Each check accepts just what they say, and takes it over as it is. So settings that were read are
acceptable (`EngineSettings.valid_ofRecord`), they keep whatever was acceptable and replace nothing else
(`EngineSettings.kept_ofRecord`), and when they are written and read again they are the same, without a
warning (`EngineSettings.Valid.ofDocument_toDocument`).
-/

namespace TickCircuit

/-! ## §1 Acceptable Values -/

/-- A length of time: a number that is positive and not infinite. -/
def Number.IsSpan : Number → Prop
  | .int n => 0 < n
  | .real x => 0.0 < x ∧ x.isFinite = true

namespace Value

/-- A number that is a length of time. A flag is no number here. -/
def IsInterval (v : Value) : Prop := ∃ n : Number, v = .ofNumber n ∧ n.IsSpan

/-- A whole number from one on. -/
def IsLimit (v : Value) : Prop := ∃ n : Int, v = .int n ∧ 1 ≤ n

/-- Nothing, or a whole number from zero on. -/
def IsSeed (v : Value) : Prop := v = .null ∨ ∃ n : Int, v = .int n ∧ 0 ≤ n

/-- Whole numbers of which the second is not the smaller one. -/
def AreChannels (low high : Value) : Prop :=
  ∃ first last : Int, low = .int first ∧ high = .int last ∧ first ≤ last

end Value

namespace EngineSettings

open Value

/-! ### Each check accepts what it should, as it is -/

theorem interval?_eq_some_iff {v : Value} {n : Number} :
    interval? v = some n ↔ v = .ofNumber n ∧ n.IsSpan := by
  constructor
  · intro accepted
    cases v with
    | int k =>
      rw [interval?, Option.ite_none_right_eq_some] at accepted
      obtain ⟨positive, same⟩ := accepted
      cases same
      exact ⟨rfl, positive⟩
    | real x =>
      rw [interval?, Option.ite_none_right_eq_some, Bool.and_eq_true, decide_eq_true_iff] at accepted
      obtain ⟨span, same⟩ := accepted
      cases same
      exact ⟨rfl, span⟩
    | _ => cases accepted
  · rintro ⟨rfl, span⟩
    cases n with
    | int k => exact if_pos span
    | real x => exact if_pos (by rw [Bool.and_eq_true, decide_eq_true_iff]; exact span)

theorem limit?_eq_some_iff {v : Value} {n : Nat} : limit? v = some n ↔ v = .int n ∧ 1 ≤ n := by
  cases v with
  | int k =>
    rw [limit?, Option.ite_none_right_eq_some, Value.int.injEq, Option.some.injEq]
    omega
  | _ => simp [limit?]

theorem seed?_eq_some_iff {v : Value} {seed : Option Nat} : seed? v = some seed ↔ v = seedValue seed := by
  cases v with
  | null => cases seed <;> simp [seed?, seedValue]
  | int k =>
    rw [seed?, Option.ite_none_right_eq_some, Option.some.injEq]
    cases seed with
    | none => simp [seedValue]
    | some n =>
      rw [seedValue, Value.int.injEq, Option.some.injEq]
      omega
  | _ => cases seed <;> simp [seed?, seedValue]

theorem channels?_eq_some_iff {low high : Value} {first last : Int} :
    channels? low high = some (first, last) ↔ low = .int first ∧ high = .int last ∧ first ≤ last := by
  constructor
  · intro accepted
    unfold channels? at accepted
    split at accepted
    · rw [Option.ite_none_right_eq_some] at accepted
      obtain ⟨ordered, same⟩ := accepted
      cases same
      exact ⟨rfl, rfl, ordered⟩
    · cases accepted
  · rintro ⟨rfl, rfl, ordered⟩
    exact if_pos ordered

/-! ## §2 Reading -/

/-- The value that a table gives to a field, or that the field has by default. -/
def given (r : Record) (name : String) : Value :=
  (Table.get? r name).getD ((Record.ofFields standard.fields).setting name)

/-- The value of a field. -/
def field (s : EngineSettings) (name : String) : Value := (Record.ofFields s.fields).setting name

/-- The settings are acceptable. -/
structure Valid (s : EngineSettings) : Prop where
  interval : s.tickInterval.IsSpan
  limit : 1 ≤ s.historyLimit
  channels : s.channelMin ≤ s.channelMax

/-- What is acceptable is kept, and what is not gives way to a default. -/
def Settled {α : Type} (acceptable : Prop) (kept given default : α) : Prop :=
  (acceptable → kept = given) ∧ (¬ acceptable → kept = default)

theorem settle_fst {α : Type} (accepted : Option α) (default : α) (warnings : List Log.Entry) :
    (settle accepted default warnings).1 = accepted.getD default := by
  cases accepted <;> rfl

theorem getD_settled {α β : Type} {accepted : Option α} {acceptable : Prop} {default : α}
    (write : α → β) {value : β} (accepts : acceptable ↔ ∃ a, accepted = some a)
    (same : ∀ a, accepted = some a → write a = value) :
    Settled acceptable (write (accepted.getD default)) value (write default) := by
  rw [Settled, accepts]
  cases accepted with
  | none => exact ⟨fun ⟨_, impossible⟩ => (by cases impossible), fun _ => rfl⟩
  | some a => exact ⟨fun _ => same a rfl, fun refused => absurd ⟨a, rfl⟩ refused⟩

theorem ofRecord_fst (r : Record) :
    let channels := (channels? (given r "broadcast_channel_min") (given r "broadcast_channel_max")).getD
      (standard.channelMin, standard.channelMax)
    (ofRecord r).1 = {
      tickInterval := (interval? (given r "tick_interval_ms")).getD standard.tickInterval
      historyLimit := (limit? (given r "history_limit")).getD standard.historyLimit
      seed := (seed? (given r "random_seed")).getD standard.seed
      channelMin := channels.1
      channelMax := channels.2 } := by
  intro channels
  show EngineSettings.mk (settle _ _ _).1 (settle _ _ _).1 (settle _ _ _).1
    (settle _ _ _ : (Int × Int) × _).1.1 (settle _ _ _ : (Int × Int) × _).1.2 = _
  simp only [settle_fst]
  rfl

/-- If everything that a table gives is acceptable, it is what the settings are, and there is nothing to
warn of. -/
theorem ofRecord_of_accepted {r : Record} {s : EngineSettings}
    (interval : interval? (given r "tick_interval_ms") = some s.tickInterval)
    (limit : limit? (given r "history_limit") = some s.historyLimit)
    (seed : seed? (given r "random_seed") = some s.seed)
    (channels : channels? (given r "broadcast_channel_min") (given r "broadcast_channel_max") =
      some (s.channelMin, s.channelMax)) : ofRecord r = (s, []) := by
  have interval' : interval? ((Table.get? r "tick_interval_ms").getD (.ofNumber standard.tickInterval)) =
    some s.tickInterval := interval
  have limit' : limit? ((Table.get? r "history_limit").getD (.int standard.historyLimit)) =
    some s.historyLimit := limit
  have seed' : seed? ((Table.get? r "random_seed").getD (seedValue standard.seed)) = some s.seed := seed
  have channels' : channels? ((Table.get? r "broadcast_channel_min").getD (.int standard.channelMin))
    ((Table.get? r "broadcast_channel_max").getD (.int standard.channelMax)) =
      some (s.channelMin, s.channelMax) := channels
  unfold ofRecord
  simp only [interval', limit', seed', channels', settle, List.append_nil]

theorem standard_valid : standard.Valid := ⟨⟨by decide, by decide⟩, by decide, by decide⟩

/-- **Sound**: settings that were read are acceptable. -/
theorem valid_ofRecord (r : Record) : (ofRecord r).1.Valid := by
  rw [ofRecord_fst]
  refine ⟨?_, ?_, ?_⟩
  · show Number.IsSpan ((interval? _).getD _)
    cases accepted : interval? (given r "tick_interval_ms") with
    | none => exact standard_valid.interval
    | some n => exact (interval?_eq_some_iff.1 accepted).2
  · show 1 ≤ (limit? _).getD _
    cases accepted : limit? (given r "history_limit") with
    | none => exact standard_valid.limit
    | some n => exact (limit?_eq_some_iff.1 accepted).2
  · show ((channels? _ _).getD _).1 ≤ ((channels? _ _).getD _).2
    cases accepted : channels? (given r "broadcast_channel_min") (given r "broadcast_channel_max") with
    | none => exact standard_valid.channels
    | some bounds => exact (channels?_eq_some_iff.1 accepted).2.2

/-- **Minimal**: every setting keeps what was given if that is acceptable, and its default otherwise. -/
theorem kept_ofRecord (r : Record) :
    let s := (ofRecord r).1
    Settled (given r "tick_interval_ms").IsInterval (s.field "tick_interval_ms")
        (given r "tick_interval_ms") (standard.field "tick_interval_ms") ∧
      Settled (given r "history_limit").IsLimit (s.field "history_limit")
        (given r "history_limit") (standard.field "history_limit") ∧
      Settled (given r "random_seed").IsSeed (s.field "random_seed")
        (given r "random_seed") (standard.field "random_seed") ∧
      Settled (AreChannels (given r "broadcast_channel_min") (given r "broadcast_channel_max"))
        (s.field "broadcast_channel_min", s.field "broadcast_channel_max")
        (given r "broadcast_channel_min", given r "broadcast_channel_max")
        (standard.field "broadcast_channel_min", standard.field "broadcast_channel_max") := by
  intro s
  have fields : s = _ := ofRecord_fst r
  rw [fields]
  -- each setting is sanitised by its own check, and a check accepts what it returns
  refine ⟨?_, ?_, ?_, ?_⟩
  · refine getD_settled Value.ofNumber ?_ fun n accepted => (interval?_eq_some_iff.1 accepted).1.symm
    simp only [interval?_eq_some_iff, IsInterval]
  · refine getD_settled (fun n : Nat => Value.int n) ?_ fun n accepted =>
      (limit?_eq_some_iff.1 accepted).1.symm
    simp only [limit?_eq_some_iff, IsLimit]
    constructor
    · rintro ⟨n, given, atLeastOne⟩
      exact ⟨n.toNat, by rw [given, Int.toNat_of_nonneg (by omega)], by omega⟩
    · rintro ⟨n, given, atLeastOne⟩
      exact ⟨n, given, by omega⟩
  · refine getD_settled seedValue ?_ fun n accepted => (seed?_eq_some_iff.1 accepted).symm
    simp only [seed?_eq_some_iff, IsSeed]
    constructor
    · rintro (given | ⟨n, given, nonnegative⟩)
      · exact ⟨none, given⟩
      · exact ⟨some n.toNat, by rw [given, seedValue, Int.toNat_of_nonneg nonnegative]⟩
    · rintro ⟨_ | n, given⟩
      · exact .inl given
      · exact .inr ⟨n, given, Int.natCast_nonneg n⟩
  · refine getD_settled (fun bounds : Int × Int => (Value.int bounds.1, Value.int bounds.2)) ?_ ?_
    · simp only [Prod.exists, channels?_eq_some_iff, AreChannels]
    · rintro ⟨first, last⟩ accepted
      obtain ⟨low, high, -⟩ := channels?_eq_some_iff.1 accepted
      rw [low, high]

/-- **Idempotent**: settings that are acceptable are read from their document as they are, without a
warning. -/
theorem Valid.ofDocument_toDocument {s : EngineSettings} (h : s.Valid) :
    ofDocument s.toDocument = .ok (s, []) := by
  refine congrArg Except.ok (ofRecord_of_accepted ?_ ?_ ?_ ?_)
  · exact interval?_eq_some_iff.2 ⟨rfl, h.interval⟩
  · exact limit?_eq_some_iff.2 ⟨rfl, h.limit⟩
  · exact seed?_eq_some_iff.2 rfl
  · exact channels?_eq_some_iff.2 ⟨rfl, rfl, h.channels⟩

end EngineSettings

end TickCircuit

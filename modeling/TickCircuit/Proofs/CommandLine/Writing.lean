import Mathlib.Data.Set.Insert
import TickCircuit.CommandLine.Disk
import TickCircuit.Proofs.Outcome

/-!
# Written Files

A file that is written is the only thing that changes on a disk (`write_changed`). So the same
directories are there before and after, and a path that does not lead to one of the places that were
written is looked up and read as before (`Changed.entry?`, `Changed.read`).

## Where a path leads

The steps on the way to a place depend on the directories alone. Where one of them fails, the problem
may still be another one on the other disk: a name that was missing may have become a file. Both problems
mean that there is nothing at the path; only a name that is too long is told apart, so paths are compared
by `Disk.found`.
-/

namespace TickCircuit.CommandLine.Disk

variable {d d' d'' : Disk} {place : Location} {places : Set Location} {p : Path} {content : String}

/-! ## §1 Keeping Something at a Place -/

/-- The first entry for a place says what is kept there. -/
theorem find?_put (d : Disk) (place : Location) (kept : Option String) (other : Location) :
    ((d.put place kept).contents.find? (·.1 == other)).map Prod.snd =
      if other = place then some kept else (d.contents.find? (·.1 == other)).map Prod.snd := by
  by_cases there : d.contents.any (·.1 == place) = true
  · -- every entry stays where it was in the list, so the same one is found
    have stays (e : Location × Option String) :
        (if e.1 == place then (place, kept) else e).1 = e.1 := by
      split
      · next here => exact (beq_iff_eq.1 here).symm
      · rfl
    rw [put, if_pos there]
    simp only [List.find?_map, Function.comp_def, stays]
    by_cases same : other = place
    · subst same
      obtain ⟨e, member, here⟩ := List.any_eq_true.1 there
      cases first : d.contents.find? (·.1 == other) with
      | none => exact absurd here (List.find?_eq_none.1 first e member)
      | some e =>
        have here : e.1 = other := by simpa using List.find?_some first
        simp [here]
    · rw [if_neg same]
      cases first : d.contents.find? (·.1 == other) with
      | none => rfl
      | some e =>
        have here : e.1 = other := by simpa using List.find?_some first
        simp [here, same]
  · rw [put, if_neg there, List.find?_append]
    by_cases same : other = place
    · subst same
      have none : d.contents.find? (·.1 == other) = none :=
        List.find?_eq_none.2 fun e member here => there (List.any_eq_true.2 ⟨e, member, here⟩)
      simp [none]
    · simp [same, Ne.symm same]

theorem at?_put (inside : place ≠ []) (kept : Option String) (other : Location) :
    (d.put place kept).at? other = if other = place then some kept else d.at? other := by
  unfold at?
  rw [find?_put]
  by_cases root : other = []
  · simp [root, inside.symm]
  · simp [root]

/-! ## §2 Disks that Differ in Some Files -/

/-- The disks differ at the given places at most, and none of these is a directory on one of them. -/
structure Changed (places : Set Location) (d d' : Disk) : Prop where
  home : d'.home = d.home
  directories : ∀ place, d'.at? place = some none ↔ d.at? place = some none
  elsewhere : ∀ place ∉ places, d'.at? place = d.at? place

theorem Changed.refl (places : Set Location) (d : Disk) : Changed places d d :=
  ⟨rfl, fun _ => Iff.rfl, fun _ _ => rfl⟩

theorem Changed.mono {more : Set Location} (h : Changed places d d') (sub : places ⊆ more) :
    Changed more d d' :=
  ⟨h.home, h.directories, fun place outside => h.elsewhere place fun member => outside (sub member)⟩

theorem Changed.trans (first : Changed places d d') (second : Changed places d' d'') :
    Changed places d d'' where
  home := second.home.trans first.home
  directories place := (second.directories place).trans (first.directories place)
  elsewhere place outside :=
    (second.elsewhere place outside).trans (first.elsewhere place outside)

/-- A file that was written has its new content, and nothing else has changed. -/
theorem write_changed (written : d.write p content = .ok d') :
    ∃ place, d.locate p = .ok place ∧ Changed {place} d d' ∧ d'.at? place = some (some content) := by
  obtain ⟨place, located, h⟩ := Outcome.bind_eq_ok.1 written
  split at h
  · cases h
  next file =>
    rw [beq_iff_eq] at file
    have inside : place ≠ [] := by
      rintro rfl
      exact file rfl
    cases h
    refine ⟨place, located, ⟨?_, fun other => ?_, fun other outside => ?_⟩, ?_⟩
    · unfold put
      split <;> rfl
    · rw [at?_put inside]
      split
      · next same =>
        subst same
        exact ⟨nofun, fun directory => absurd directory file⟩
      · rfl
    · rw [at?_put inside, if_neg (mt Set.mem_singleton_iff.2 outside)]
    · rw [at?_put inside, if_pos rfl]

/-! ## §3 Where Paths Lead -/

/-- What was found at the end of a way: nothing where a name is missing. -/
def found : Except FileProblem Location → Except FileProblem (Option Location)
  | .ok place => .ok (some place)
  | .error .nameTooLong => .error .nameTooLong
  | .error _ => .ok none

theorem found_eq_some {r : Except FileProblem Location} : found r = .ok (some place) ↔ r = .ok place := by
  unfold found
  split <;> simp

theorem entry?_eq (d : Disk) (p : Path) :
    d.entry? p = (found (d.locate p)).map fun place => place.bind fun place =>
      (d.at? place).map kindOf := by
  unfold entry?
  cases d.locate p with
  | ok place => rfl
  | error problem => cases problem <;> rfl

namespace Changed

/-- The same names lead to the same place, or to none on both disks. -/
theorem found_steps (h : Changed places d d') (names : List String) (place : Location) :
    found (names.foldlM d'.step place) = found (names.foldlM d.step place) := by
  induction names generalizing place with
  | nil => rfl
  | cons name rest ih =>
    rw [List.foldlM_cons, List.foldlM_cons]
    by_cases directory : d.at? place = some none
    · have same : d'.step place name = d.step place name := by
        rw [step, step, directory, (h.directories place).2 directory]
      rw [same]
      cases d.step place name with
      | ok next => exact ih next
      | error problem => rfl
    · -- no way leads on from here, on either disk
      have stops (e : Disk) (noDirectory : e.at? place ≠ some none) :
          found (e.step place name >>= rest.foldlM e.step) = .ok none := by
        unfold step
        split
        · rfl
        · rfl
        · next directory => exact absurd directory noDirectory
      rw [stops d directory, stops d' (mt (h.directories place).1 directory)]

theorem found_locate (h : Changed places d d') (p : Path) : found (d'.locate p) = found (d.locate p) := by
  unfold locate
  split
  · rfl
  · rw [h.home]
    exact h.found_steps _ _

theorem locate_eq_ok (h : Changed places d d') : d'.locate p = .ok place ↔ d.locate p = .ok place := by
  rw [← found_eq_some, h.found_locate, found_eq_some]

/-- A path that leads to none of the places is looked up with the same outcome. -/
theorem entry? (h : Changed places d d') (apart : ∀ place ∈ places, d.locate p ≠ .ok place) :
    d'.entry? p = d.entry? p := by
  rw [entry?_eq, entry?_eq, h.found_locate]
  cases looked : found (d.locate p) with
  | error problem => rfl
  | ok place =>
    cases place with
    | none => rfl
    | some place =>
      have outside : place ∉ places := fun member => apart place member (found_eq_some.1 looked)
      exact congrArg (fun kept => Except.ok (kept.map kindOf)) (h.elsewhere place outside)

/-- What it leads to is read with the same outcome. -/
theorem read (h : Changed places d d') (apart : ∀ place ∈ places, d.locate p ≠ .ok place)
    (located : d.locate p = .ok place) : d'.read p = d.read p := by
  have outside : place ∉ places := fun member => apart place member located
  unfold Disk.read
  rw [located, h.locate_eq_ok.2 located]
  simp only [bind, Except.bind]
  rw [h.elsewhere place outside]

end Changed

/-! ## §4 Paths to Write at -/

/-- A file can be written at a path. -/
def Writable (d : Disk) (p : Path) : Prop := ∃ place, d.locate p = .ok place ∧ d.at? place ≠ some none

theorem Writable.exists_write (writable : d.Writable p) (content : String) :
    ∃ d', d.write p content = .ok d' := by
  obtain ⟨place, located, file⟩ := writable
  refine ⟨d.put place (some content), ?_⟩
  unfold write
  rw [located]
  simp only [bind, Except.bind]
  rw [if_neg (by simpa using file)]
  rfl

theorem Changed.writable (h : Changed places d d') (writable : d.Writable p) : d'.Writable p := by
  obtain ⟨place, located, file⟩ := writable
  exact ⟨place, h.locate_eq_ok.2 located, mt (h.directories place).1 file⟩

/-- What was written is read. -/
theorem read_of_at? (located : d.locate p = .ok place) (kept : d.at? place = some (some content)) :
    d.read p = .ok content := by
  unfold Disk.read
  rw [located]
  simp only [bind, Except.bind]
  rw [kept]
  rfl

end TickCircuit.CommandLine.Disk

import TickCircuit.CommandLine.FileSystem

/-!
# Disks

A file system as a value: the directories and files it holds, and the working directory. The root is
always there. Every operation is a function of the disk, so what a program does to its files can be
stated.
-/

namespace TickCircuit.CommandLine

/-- A place on a disk: the names on the way from the root. -/
abbrev Location := List String

structure Disk where
  /-- The working directory. -/
  home : Location
  /-- What is kept at each place: the content of a file, nothing for a directory. -/
  contents : List (Location × Option String)
  deriving Repr

namespace Disk

/-! ## §1 Places -/

/-- What is kept at a place. -/
def at? (d : Disk) (place : Location) : Option (Option String) :=
  if place.isEmpty then some none else (d.contents.find? (·.1 == place)).map Prod.snd

/-- Keeps something at a place. -/
def put (d : Disk) (place : Location) (content : Option String) : Disk :=
  if d.contents.any (·.1 == place) then
    { d with contents := d.contents.map fun e => if e.1 == place then (place, content) else e }
  else { d with contents := d.contents ++ [(place, content)] }

/-- The longest name, in bytes. -/
def longestName : Nat := 255

/-- A step from the place of a directory: two dots lead back. -/
def step (d : Disk) (place : Location) (name : String) : Except FileProblem Location :=
  match d.at? place with
  | none => .error .missing
  | some (some _) => .error .notDirectory
  | some none =>
    if name == ".." then .ok place.dropLast
    else if longestName < name.utf8ByteSize then .error .nameTooLong
    else .ok (place ++ [name])

/-- The place that a path leads to. All directories on the way must be there. -/
def locate (d : Disk) (p : Path) : Except FileProblem Location :=
  if p.names.any fun name => name.toList.contains '\x00' then .error .badName
  else p.names.foldlM d.step (if p.root.isEmpty then d.home else [])

/-! ## §2 Looking -/

def kindOf : Option String → EntryKind
  | none => .directory
  | some _ => .file

/-- What a path leads to. Names that cannot be looked up for their length are a problem; all others
lead nowhere. -/
def entry? (d : Disk) (p : Path) : Except FileProblem (Option EntryKind) :=
  match d.locate p with
  | .ok place => .ok ((d.at? place).map kindOf)
  | .error .nameTooLong => .error .nameTooLong
  | .error _ => .ok none

/-- The names in the directory at a place. -/
def entriesAt (d : Disk) (place : Location) : List (String × EntryKind) :=
  d.contents.filterMap fun e =>
    match e.1.getLast? with
    | some name => if e.1.dropLast == place then some (name, kindOf e.2) else none
    | none => none

/-- The names in a directory; none for anything else. -/
def entries (d : Disk) (p : Path) : List (String × EntryKind) :=
  match d.locate p with
  | .ok place => if d.at? place == some none then d.entriesAt place else []
  | .error _ => []

/-- The content of a file. -/
def read (d : Disk) (p : Path) : Except FileProblem String := do
  match d.at? (← d.locate p) with
  | some (some content) => return content
  | some none => throw .isDirectory
  | none => throw .missing

/-! ## §3 Changing -/

/-- Writes a file, whose directory must be there. -/
def write (d : Disk) (p : Path) (content : String) : Except FileProblem Disk := do
  let place ← d.locate p
  if d.at? place == some none then throw .isDirectory
  else return d.put place (some content)

/-- Makes a directory at a place, unless there is one. -/
def makeAt (d : Disk) (place : Location) : Except FileProblem Disk :=
  match d.at? place with
  | none => .ok (d.put place none)
  | some none => .ok d
  | some (some _) => .error .alreadyThere

/-- Makes the directories on the way from a place. -/
def makeFrom (d : Disk) (place : Location) : List String → Except FileProblem Disk
  | [] => .ok d
  | name :: rest => do
    let next ← d.step place name
    let d ← d.makeAt next
    d.makeFrom next rest

/-- Makes a directory and those on the way to it. -/
def makeDirectories (d : Disk) (p : Path) : Except FileProblem Disk := do
  if p.names.any fun name => name.toList.contains '\x00' then throw .badName
  else
    let start := if p.root.isEmpty then d.home else []
    match d.makeFrom start p.names with
    | .ok d => return d
    | .error .alreadyThere =>
      match d.locate p with
      | .error .notDirectory => throw .notDirectory
      | _ => throw .alreadyThere
    | .error problem => throw problem

/-- The disk with all directories on the way to a place. -/
def makeWay (d : Disk) (place : Location) : Disk :=
  (List.range (place.length + 1)).foldl (fun d n =>
    let way := place.take n
    if (d.at? way).isSome then d else d.put way none) d

/-- A disk whose working directory holds the given directories and files. -/
def ofFiles (home : Location) (directories : List Location) (files : List (Location × String)) :
    Disk :=
  let empty : Disk := makeWay ⟨home, []⟩ home
  let d := directories.foldl (fun d place => d.makeWay (home ++ place)) empty
  files.foldl (fun d f =>
    (d.makeWay (home ++ f.1).dropLast).put (home ++ f.1) (some f.2)) d

/-! ## §4 The File System of a Disk -/

/-- A change of the disk that may fail, and then leaves the disk as it is. -/
def change (act : Disk → Except FileProblem Disk) : StateM Disk (Except FileProblem Unit) := fun d =>
  match act d with
  | .ok d => (.ok (), d)
  | .error problem => (.error problem, d)

/-- The files on a disk. -/
def fileSystem : FileSystem (StateM Disk) where
  entry? p := fun d => (d.entry? p, d)
  entries p := fun d => (d.entries p, d)
  read p := fun d => (d.read p, d)
  write p content := change fun d => d.write p content
  makeDirectories p := change fun d => d.makeDirectories p

end Disk

end TickCircuit.CommandLine

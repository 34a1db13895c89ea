import TickCircuit.CommandLine.Path
import TickCircuit.CommandLine.Wildcard

/-!
# File Systems

What the program asks of the files around it, in whatever way they are kept: what a path leads to,
what a directory and a file hold, and to write files and make directories. `FileSystem.matching`
finds the paths that a wildcard describes.
-/

namespace TickCircuit.CommandLine

/-- Why a file or a directory could not be used. -/
inductive FileProblem where
  | missing
  | isDirectory
  | notDirectory
  | alreadyThere
  | nameTooLong
  /-- The name holds a character that no name may hold. -/
  | badName
  deriving Repr, DecidableEq

namespace FileProblem

/-- The wording of a problem. -/
def message : FileProblem → String
  | missing => "[Errno 2] No such file or directory"
  | isDirectory => "[Errno 21] Is a directory"
  | notDirectory => "[Errno 20] Not a directory"
  | alreadyThere => "[Errno 17] File exists"
  | nameTooLong => "[Errno 36] File name too long"
  | badName => "embedded null byte"

end FileProblem

/-- What a path leads to. -/
inductive EntryKind where
  | file
  | directory
  deriving Repr, DecidableEq

/-- The files around the program. -/
structure FileSystem (m : Type → Type) where
  /-- What a path leads to, if it leads anywhere. -/
  entry? : Path → m (Except FileProblem (Option EntryKind))
  /-- The names in a directory, in any order; none for anything else. -/
  entries : Path → m (List (String × EntryKind))
  read : Path → m (Except FileProblem String)
  write : Path → String → m (Except FileProblem Unit)
  /-- Makes a directory, and those on the way to it, unless they are there. -/
  makeDirectories : Path → m (Except FileProblem Unit)

namespace FileSystem

variable {m : Type → Type} [Monad m]

/-- What a path leads to; a path that cannot be looked up leads nowhere. -/
def look (fs : FileSystem m) (p : Path) : m (Option EntryKind) := do
  match ← fs.entry? p with
  | .ok kind => return kind
  | .error _ => return none

/-- A part of a wildcard describes a name. Names that start with a dot have to be asked for. -/
def describes (part name : String) : Bool :=
  (part.toList.head? == some '.' || name.toList.head? != some '.') && Wildcard.holds part name

/-- The paths from `p` on that the parts of a wildcard describe. Only directories lead on, and only
they are found if `onlyDirectories` holds. -/
def expand (fs : FileSystem m) (onlyDirectories : Bool) : (parts : List String) → Path →
    m (List Path)
  | [], p => return [p]
  | part :: rest, p => do
    let fits (kind : EntryKind) : Bool :=
      kind == .directory || (rest.isEmpty && !onlyDirectories)
    if Wildcard.isWild part then
      let found := (← fs.entries p).filter fun e => fits e.2 && describes part e.1
      let paths ← found.mapM fun e => expand fs onlyDirectories rest (p.child e.1)
      return paths.flatten
    else
      match ← fs.look (p.child part) with
      | some kind =>
        if rest.isEmpty && !fits kind then return []
        else expand fs onlyDirectories rest (p.child part)
      | none => return []

/-- A text ends like the path of a directory: in a slash, and a dot may stand behind it. -/
def endsInDirectory (text : String) : Bool :=
  match (Path.pieces text.toList).getLast? with
  | some last => last.isEmpty || last == ['.']
  | none => false

/-- The paths that a wildcard describes. One that ends like the path of a directory describes
directories. -/
def matching (fs : FileSystem m) (wildcard : String) : m (List Path) :=
  let p := Path.ofText wildcard
  fs.expand (endsInDirectory wildcard) p.names ⟨p.root, []⟩

end FileSystem

end TickCircuit.CommandLine

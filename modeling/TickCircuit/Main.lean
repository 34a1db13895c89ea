import TickCircuit.CommandLine.Program

/-!
# Command Line

The program on the files of the machine. Everything it does is decided by
`TickCircuit.CommandLine.Program`; here paths are looked up, files are read and written, and what
was printed is passed on.
-/

namespace TickCircuit.CommandLine.Machine

/-- The problem that an error of the machine stands for; all others are passed on. -/
def problemOf (e : IO.Error) : IO FileProblem :=
  match e with
  | .noFileOrDirectory .. => return .missing
  | .alreadyExists .. => return .alreadyThere
  | .inappropriateType _ code _ => return if code == 21 then .isDirectory else .notDirectory
  | _ => throw e

/-- An operation, with the problem that kept it from being done. -/
def attempt {α : Type} (act : IO α) : IO (Except FileProblem α) := do
  try return .ok (← act)
  catch e => return .error (← problemOf e)

/-- What a path of the machine leads to. -/
def kindAt (text : String) : IO EntryKind := do
  let place ← IO.FS.realPath ⟨text⟩
  return if ← place.isDir then .directory else .file

/-- What a path leads to, if it leads anywhere. -/
def entry? (p : Path) : IO (Except FileProblem (Option EntryKind)) := do
  match ← attempt (kindAt p.text) with
  | .ok kind => return .ok (some kind)
  | .error .nameTooLong => return .error .nameTooLong
  | .error _ => return .ok none

/-- The names in a directory. -/
def entries (p : Path) : IO (List (String × EntryKind)) := do
  let found ← attempt (do (← IO.FS.realPath ⟨p.text⟩).readDir)
  match found with
  | .error _ => return []
  | .ok items =>
    let kinds ← items.toList.mapM fun item => do
      match ← entry? (p.child item.fileName) with
      | .ok (some kind) => return some (item.fileName, kind)
      | _ => return none
    return kinds.filterMap id

/-- The files of the machine. -/
def files : FileSystem IO where
  entry? := entry?
  entries := entries
  read p := attempt (IO.FS.readFile ⟨p.text⟩)
  write p content := attempt (IO.FS.writeFile ⟨p.text⟩ content)
  makeDirectories p := do
    match ← entry? p with
    | .ok (some .file) => return .error .alreadyThere
    | _ => attempt (IO.FS.createDirAll ⟨p.text⟩)

end TickCircuit.CommandLine.Machine

open TickCircuit.CommandLine in
def main (words : List String) : IO UInt32 := do
  let (result, console) ← Program.start Machine.files words
  IO.print console.out
  IO.eprint console.err
  match result with
  | .ok code => return code.toUInt32
  | .error failure =>
    IO.eprintln failure.message
    return 1

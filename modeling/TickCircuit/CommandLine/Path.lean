/-!
# Paths

A path leads to a file or a directory by the names on the way, from the root or from the working
directory. The text of a path may hold slashes and single dots that mean nothing; they are dropped,
so a path has one text of its own.
-/

namespace TickCircuit.CommandLine

structure Path where
  /-- The slashes in front; none for a path from the working directory. -/
  root : String
  names : List String
  deriving Repr, DecidableEq

namespace Path

/-- The parts of a text between its slashes. -/
def pieces : List Char → List (List Char)
  | [] => [[]]
  | c :: rest =>
    if c == '/' then [] :: pieces rest
    else match pieces rest with
      | [] => [[c]]
      | first :: more => (c :: first) :: more

/-- The names that a text holds: what stands between slashes, except for single dots. -/
def namesIn (text : String) : List String :=
  ((pieces text.toList).map String.ofList).filter fun name => name != "" && name != "."

/-- The root that a text starts from. Two slashes are a root of their own, more than two are one. -/
def rootOf (text : String) : String :=
  match text.toList.takeWhile (· == '/') with
  | [] => ""
  | ['/', '/'] => "//"
  | _ => "/"

/-- The path that a text spells. -/
def ofText (text : String) : Path := ⟨rootOf text, namesIn text⟩

/-- The text of a path; a dot for the working directory. -/
def text (p : Path) : String :=
  if p.root.isEmpty && p.names.isEmpty then "." else p.root ++ String.intercalate "/" p.names

/-- The path to `name` in the directory at `p`. -/
def child (p : Path) (name : String) : Path := { p with names := p.names ++ [name] }

/-- The last name of a path. -/
def name (p : Path) : String := p.names.getLast?.getD ""

/-- A name without its suffix, which is the part from the last dot on. A dot at the start or at the
end of a name begins no suffix. -/
def withoutSuffix (name : String) : String :=
  let after := name.toList.reverse.takeWhile (· != '.')
  let before := name.toList.reverse.drop (after.length + 1)
  if after.isEmpty || before.isEmpty then name else String.ofList before.reverse

/-- The last name without its suffix. -/
def stem (p : Path) : String := withoutSuffix p.name

/-- What paths are sorted by: the root, if there is one, and the names. -/
def sortKey (p : Path) : List String := if p.root.isEmpty then p.names else p.root :: p.names

/-- Paths in the order of their names. -/
def sort (ps : List Path) : List Path := ps.mergeSort fun a b => !decide (b.sortKey < a.sortKey)

end Path

end TickCircuit.CommandLine

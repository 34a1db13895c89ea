import TickCircuit.Number.Notation
import TickCircuit.Text.HexDigit
import TickCircuit.Value.Basic

/-!
# Writing Documents

The JSON text of a value, in ASCII: every other character is written by its UTF-16 code units. Each
item and each entry has a line of its own, indented by two blanks per level, and what is empty stays
on one line; or all stands on a single line.
-/

namespace TickCircuit.Document

/-- How a character is written in a string. -/
def escapeChar (c : Char) : List Char :=
  if c == '"' then ['\\', '"']
  else if c == '\\' then ['\\', '\\']
  else if c == '\n' then ['\\', 'n']
  else if c == '\r' then ['\\', 'r']
  else if c == '\t' then ['\\', 't']
  else if c == '\x0c' then ['\\', 'f']
  else if c == '\x08' then ['\\', 'b']
  else if 32 ≤ c.toNat && c.toNat < 127 then [c]
  else if c.toNat < 0x10000 then '\\' :: 'u' :: HexDigit.digits 4 c.toNat
  else
    let above := c.toNat - 0x10000
    '\\' :: 'u' :: HexDigit.digits 4 (0xD800 + above / 0x400) ++
      ('\\' :: 'u' :: HexDigit.digits 4 (0xDC00 + above % 0x400))

/-- A text as a string of a document. -/
def stringText (s : String) : String :=
  "\"" ++ String.ofList (s.toList.flatMap escapeChar) ++ "\""

/-- The name that a key has in a document. -/
def keyName : Value → String
  | .null => "null"
  | .flag b => if b then "true" else "false"
  | .int n => toString n
  | .real x => Layout.document.floatText x
  | .text s => s
  | .absent => "NO_SIGNAL"
  | _ => ""

/-- The breaks between the parts of a document. -/
inductive Spacing where
  | oneLine
  | indented
  deriving Repr, DecidableEq

/-- What stands before a part at the given level. -/
def Spacing.before (sp : Spacing) (level : Nat) : String :=
  match sp with
  | oneLine => ""
  | indented => "\n" ++ String.ofList (List.replicate (2 * level) ' ')

/-- What stands between two parts. -/
def Spacing.between (sp : Spacing) (level : Nat) : String :=
  match sp with
  | oneLine => ", "
  | indented => "," ++ sp.before level

mutual

/-- The text of a value at a level. The signal `absent` has no place in a document and is written
as its name. -/
def write (sp : Spacing) (level : Nat) : Value → String
  | .null => "null"
  | .absent => stringText "NO_SIGNAL"
  | .flag b => if b then "true" else "false"
  | .int n => toString n
  | .real x => Layout.document.floatText x
  | .text s => stringText s
  | .list xs =>
    if xs.isEmpty then "[]"
    else "[" ++ sp.before (level + 1) ++
      String.intercalate (sp.between (level + 1)) (writeItems sp (level + 1) xs) ++
      sp.before level ++ "]"
  | .object es =>
    if es.isEmpty then "\x7b\x7d"
    else "\x7b" ++ sp.before (level + 1) ++
      String.intercalate (sp.between (level + 1)) (writeEntries sp (level + 1) es) ++
      sp.before level ++ "\x7d"

/-- The texts of the items of a list. -/
def writeItems (sp : Spacing) (level : Nat) : List Value → List String
  | [] => []
  | x :: xs => write sp level x :: writeItems sp level xs

/-- The texts of the entries of an object. -/
def writeEntries (sp : Spacing) (level : Nat) : List (Value × Value) → List String
  | [] => []
  | (k, v) :: es => (stringText (keyName k) ++ ": " ++ write sp level v) :: writeEntries sp level es

end

/-- The text of a document, indented. -/
def print (v : Value) : String := write .indented 0 v

/-- The text of a document on one line. -/
def printLine (v : Value) : String := write .oneLine 0 v

end TickCircuit.Document

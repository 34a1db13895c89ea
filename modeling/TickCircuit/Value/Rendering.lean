import TickCircuit.Number.Notation
import TickCircuit.Text.HexDigit
import TickCircuit.Text.Printable
import TickCircuit.Value.Basic

/-!
# The Text of Values

`Value.display` is the text of a value where it stands alone: a text is itself. Inside a list or an
object, and wherever `Value.literal` is used, texts are quoted: by an apostrophe unless the text has
apostrophes and no double quote. Characters that do not print are written by their code point.
-/

namespace TickCircuit

namespace Quoted

/-- How a character is written between quotes. -/
def escape (quote : Char) (c : Char) : List Char :=
  if c == quote || c == '\\' then ['\\', c]
  else if c == '\t' then ['\\', 't']
  else if c == '\n' then ['\\', 'n']
  else if c == '\r' then ['\\', 'r']
  else if Printable.isPrintable c then [c]
  else if c.toNat < 0x100 then '\\' :: 'x' :: HexDigit.digits 2 c.toNat
  else if c.toNat < 0x10000 then '\\' :: 'u' :: HexDigit.digits 4 c.toNat
  else '\\' :: 'U' :: HexDigit.digits 8 c.toNat

/-- The quote put around a text. -/
def quoteFor (s : String) : Char :=
  if s.toList.contains '\'' && !s.toList.contains '"' then '"' else '\''

/-- A text between quotes. -/
def quote (s : String) : String :=
  let q := quoteFor s
  String.ofList ([q] ++ s.toList.flatMap (escape q) ++ [q])

end Quoted

namespace Value

mutual

/-- The text of a value, texts being quoted. -/
def literal : Value → String
  | null => "None"
  | absent => "NO_SIGNAL"
  | flag true => "True"
  | flag false => "False"
  | int n => toString n
  | real x => Layout.signal.floatText x
  | text s => Quoted.quote s
  | list xs => "[" ++ String.intercalate ", " (literals xs) ++ "]"
  | object es => "\x7b" ++ String.intercalate ", " (entryLiterals es) ++ "\x7d"

/-- The texts of the items of a list. -/
def literals : List Value → List String
  | [] => []
  | x :: xs => literal x :: literals xs

/-- The texts of the entries of an object. -/
def entryLiterals : List (Value × Value) → List String
  | [] => []
  | (k, v) :: es => (literal k ++ ": " ++ literal v) :: entryLiterals es

end

/-- The text of a value that stands alone. -/
def display : Value → String
  | text s => s
  | v => literal v

end Value

end TickCircuit

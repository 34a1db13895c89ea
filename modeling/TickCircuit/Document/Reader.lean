import TickCircuit.Number.Reading
import TickCircuit.Text.HexDigit
import TickCircuit.Value.Table

/-!
# Reading Documents

A document is a JSON text that holds one value. Numbers without point and exponent are whole
numbers of any size, all others are `Float`s; the words `NaN`, `Infinity` and `-Infinity` are
accepted. A name that occurs twice in an object keeps its first place and its last value.

The first thing that does not fit ends the reading, with its cause and its position.
-/

namespace TickCircuit.Document

/-! ## §1 What Can Be Wrong -/

/-- Why a text is no document. -/
inductive Cause where
  | byteOrderMark
  | value
  | name
  | colon
  | comma
  | trailing
  | openString
  | control
  | escape
  | codePoint
  /-- A whole number has more digits than are read. -/
  | tooManyDigits
  deriving Repr, DecidableEq

/-- The wording of a cause. -/
def Cause.message : Cause → String
  | byteOrderMark => "Unexpected UTF-8 BOM (decode using utf-8-sig)"
  | value => "Expecting value"
  | name => "Expecting property name enclosed in double quotes"
  | colon => "Expecting ':' delimiter"
  | comma => "Expecting ',' delimiter"
  | trailing => "Extra data"
  | openString => "Unterminated string starting at"
  | control => "Invalid control character at"
  | escape => "Invalid \\escape"
  | codePoint => "Invalid \\uXXXX escape"
  | tooManyDigits => "Exceeds the limit (4300 digits) for integer string conversion"

/-- A cause and the place, counted in characters from zero. -/
structure Misfit where
  cause : Cause
  position : Nat
  deriving Repr, DecidableEq

/-- The number of the line that a position lies in, and its place in that line, from one. -/
def lineAndColumn (text : List Char) (position : Nat) : Nat × Nat :=
  let before := text.take position
  (before.count '\n' + 1, (before.reverse.takeWhile (· != '\n')).length + 1)

/-- The wording of a misfit in a text. -/
def Misfit.message (m : Misfit) (text : String) : String :=
  let (line, column) := lineAndColumn text.toList m.position
  m.cause.message ++ ": line " ++ toString line ++ " column " ++ toString column ++
    " (char " ++ toString m.position ++ ")"

/-! ## §2 The Place in a Text -/

/-- The characters still to be read, and how many were read before them. -/
structure Cursor where
  rest : List Char
  position : Nat

/-- The outcome of reading a part of a text. -/
abbrev Read (α : Type) := Except Misfit (α × Cursor)

namespace Cursor

def fail {α : Type} (c : Cursor) (cause : Cause) : Except Misfit α := .error ⟨cause, c.position⟩

/-- The cursor `n` characters further on. -/
def skip (c : Cursor) (n : Nat) : Cursor := ⟨c.rest.drop n, c.position + n⟩

/-- The blanks between the parts of a document. -/
def isSpace (c : Char) : Bool := c == ' ' || c == '\t' || c == '\n' || c == '\r'

def skipSpace (c : Cursor) : Cursor :=
  c.skip (c.rest.takeWhile isSpace).length

end Cursor

/-! ## §3 Strings -/

/-- The value of four hexadecimal digits at the front of a text. -/
def hex4? (cs : List Char) : Option Nat :=
  match cs with
  | a :: b :: c :: d :: _ =>
    if [a, b, c, d].all HexDigit.isHexDigit then some (HexDigit.number [a, b, c, d]) else none
  | _ => none

/-- The character of a simple escape. -/
def simpleEscape? : Char → Option Char
  | '"' => some '"'
  | '\\' => some '\\'
  | '/' => some '/'
  | 'b' => some '\x08'
  | 'f' => some '\x0c'
  | 'n' => some '\n'
  | 'r' => some '\r'
  | 't' => some '\t'
  | _ => none

/-- The character with this code point; half of a surrogate pair that stands alone has none and is
read as the replacement character. -/
def charOfCode (code : Nat) : Char :=
  if 0xD800 ≤ code && code < 0xE000 then '\uFFFD' else Char.ofNat code

/-- A code point escape, the cursor standing behind the letter `u`: the character, and how many
characters the escape takes up from there. Two escapes that form a surrogate pair are one
character. -/
def codeEscape (c : Cursor) : Except Misfit (Char × Nat) :=
  if (c.rest.drop 4).isEmpty then .error ⟨.codePoint, c.position - 1⟩
  else match hex4? c.rest with
    | none => .error ⟨.codePoint, c.position - 1⟩
    | some high =>
      let after := c.rest.drop 4
      if 0xD800 ≤ high && high < 0xDC00 && !(after.drop 6).isEmpty &&
          after.take 2 == ['\\', 'u'] then
        match hex4? (after.drop 2) with
        | none => .error ⟨.codePoint, c.position + 5⟩
        | some low =>
          if 0xDC00 ≤ low && low < 0xE000 then
            .ok (Char.ofNat (0x10000 + (high - 0xD800) * 0x400 + (low - 0xDC00)), 10)
          else .ok (charOfCode high, 4)
      else .ok (charOfCode high, 4)

/-- The rest of a string whose opening quote stands at `start`; `done` holds its characters so far,
last one first. Each step takes at least one character, so the length of the text is enough fuel. -/
def stringBody (start : Nat) : (fuel : Nat) → (done : List Char) → Cursor → Read String
  | 0, _, _ => .error ⟨.openString, start⟩
  | fuel + 1, done, c =>
    match c.rest with
    | [] => .error ⟨.openString, start⟩
    | '"' :: _ => .ok (String.ofList done.reverse, c.skip 1)
    | '\\' :: rest =>
      match rest with
      | [] => .error ⟨.openString, start⟩
      | 'u' :: _ =>
        match codeEscape (c.skip 2) with
        | .error m => .error m
        | .ok (ch, n) => stringBody start fuel (ch :: done) (c.skip (2 + n))
      | e :: _ =>
        match simpleEscape? e with
        | some ch => stringBody start fuel (ch :: done) (c.skip 2)
        | none => c.fail .escape
    | ch :: _ =>
      if ch.toNat < 32 then c.fail .control
      else stringBody start fuel (ch :: done) (c.skip 1)

/-- A string, the cursor standing on its opening quote. -/
def string (fuel : Nat) (c : Cursor) : Read String :=
  stringBody c.position fuel [] (c.skip 1)

/-! ## §4 Numbers and Words -/

/-- The digits at the front of a text. -/
def digits (cs : List Char) : List Char := cs.takeWhile Char.isDigit

/-- The length of a fraction part, a point and at least one digit, or zero. -/
def fractionLength : List Char → Nat
  | '.' :: rest => if (digits rest).isEmpty then 0 else (digits rest).length + 1
  | _ => 0

/-- The length of an exponent part, or zero. -/
def exponentLength : List Char → Nat
  | e :: rest =>
    if e == 'e' || e == 'E' then
      let sign := match rest with
        | '+' :: _ => 1
        | '-' :: _ => 1
        | _ => 0
      let ds := digits (rest.drop sign)
      if ds.isEmpty then 0 else 1 + sign + ds.length
    else 0
  | [] => 0

/-- A number. A leading zero stands alone. -/
def number (c : Cursor) : Read Value :=
  let negative := c.rest.head? == some '-'
  let body := if negative then c.rest.drop 1 else c.rest
  let whole := match body with
    | '0' :: _ => ['0']
    | _ => digits body
  if whole.isEmpty then c.fail .value
  else
    let afterWhole := body.drop whole.length
    let fraction := fractionLength afterWhole
    let exponent := exponentLength (afterWhole.drop fraction)
    let length := (if negative then 1 else 0) + whole.length + fraction + exponent
    if fraction == 0 && exponent == 0 then
      if whole.length > Reading.maxDigits then c.fail .tooManyDigits
      else
        let n : Int := Reading.digitsValue whole
        .ok (.int (if negative then -n else n), c.skip length)
    else
      match Reading.fraction? negative (body.take (whole.length + fraction + exponent)) with
      | some x => .ok (.real x, c.skip length)
      | none => c.fail .value

/-- The words of a document and the values they stand for. -/
def words : List (String × Value) :=
  [("null", .null), ("true", .flag true), ("false", .flag false), ("NaN", .real (0.0 / 0.0)),
    ("Infinity", .real (1.0 / 0.0)), ("-Infinity", .real (-1.0 / 0.0))]

/-- The word at the front of a text, with its value. -/
def word? (cs : List Char) : Option (String × Value) :=
  words.find? fun w => w.1.toList.isPrefixOf cs

/-! ## §5 Values -/

mutual

/-- A value. Every call stands for at least one character of the text or comes right after one, so
twice its length is enough fuel. -/
def value : (fuel : Nat) → Cursor → Read Value
  | 0, c => c.fail .value
  | fuel + 1, c =>
    match c.rest with
    | [] => c.fail .value
    | '"' :: _ => (string fuel c).map fun (s, c) => (.text s, c)
    | '{' :: _ =>
      let inside := (c.skip 1).skipSpace
      match inside.rest with
      | '}' :: _ => .ok (.object [], inside.skip 1)
      | _ => entries fuel [] inside
    | '[' :: _ =>
      let inside := (c.skip 1).skipSpace
      match inside.rest with
      | ']' :: _ => .ok (.list [], inside.skip 1)
      | _ => items fuel [] inside
    | _ =>
      match word? c.rest with
      | some (w, v) => .ok (v, c.skip w.length)
      | none => number c

/-- The items of a list, from one on; `done` holds those before it, last one first. -/
def items : (fuel : Nat) → (done : List Value) → Cursor → Read Value
  | 0, _, c => c.fail .value
  | fuel + 1, done, c =>
    match value fuel c with
    | .error m => .error m
    | .ok (v, c) =>
      let next := c.skipSpace
      match next.rest with
      | ']' :: _ => .ok (.list (v :: done).reverse, next.skip 1)
      | ',' :: _ => items fuel (v :: done) (next.skip 1).skipSpace
      | _ => next.fail .comma

/-- The entries of an object, from one on; `done` holds those before it. -/
def entries : (fuel : Nat) → (done : Record) → Cursor → Read Value
  | 0, _, c => c.fail .value
  | fuel + 1, done, c =>
    match c.rest with
    | '"' :: _ =>
      match string fuel c with
      | .error m => .error m
      | .ok (key, c) =>
        let colon := c.skipSpace
        match colon.rest with
        | ':' :: _ =>
          match value fuel (colon.skip 1).skipSpace with
          | .error m => .error m
          | .ok (v, c) =>
            let done := done.insert (.text key) v
            let next := c.skipSpace
            match next.rest with
            | '}' :: _ => .ok (.object done, next.skip 1)
            | ',' :: _ => entries fuel done (next.skip 1).skipSpace
            | _ => next.fail .comma
        | _ => colon.fail .colon
    | _ => c.fail .name

end

/-- The value that a text holds. -/
def parse (text : String) : Except Misfit Value :=
  let cs := text.toList
  if cs.head? == some '\uFEFF' then .error ⟨.byteOrderMark, 0⟩
  else
    match value (2 * cs.length + 2) (Cursor.skipSpace ⟨cs, 0⟩) with
    | .error m => .error m
    | .ok (v, c) =>
      let stop := c.skipSpace
      if stop.rest.isEmpty then .ok v else stop.fail .trailing

/-- A text as it is read from a file: every line ends with a line feed alone. -/
def unifyLineEnds : List Char → List Char
  | [] => []
  | '\r' :: '\n' :: rest => '\n' :: unifyLineEnds rest
  | '\r' :: rest => '\n' :: unifyLineEnds rest
  | c :: rest => c :: unifyLineEnds rest

end TickCircuit.Document

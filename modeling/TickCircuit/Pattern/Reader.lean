import TickCircuit.Fault
import TickCircuit.Number.Reading
import TickCircuit.Pattern.Tree
import TickCircuit.Text.HexDigit
import TickCircuit.Text.Identifier

/-!
# Reading Patterns

`Pattern.compile` reads the text of a pattern. Every text that does not follow the grammar is refused
in the same way; the one other failure is a repeat count that is too large, which is reported as soon
as it is met.

A group may be named by `(?P<name>` and by `(?<name>` alike.
-/

namespace TickCircuit

/-- A pattern that has been read. -/
structure Pattern where
  tree : Pattern.Tree
  /-- How many groups there are. -/
  groupCount : Nat
  /-- The names of groups, with their indices. -/
  names : List (String × Nat)
  options : Pattern.Options

namespace Pattern

/-! ## §1 The State of Reading -/

/-- What has been read so far, and the text that is left. -/
structure Scan where
  rest : List Char
  /-- The widths of the groups, counted from one; none while a group is open. Entry zero stands for
  the whole pattern. -/
  groups : List (Option Width) := [none]
  names : List (String × Nat) := []
  options : Options := {}
  /-- Inside a look behind, the first group that may not be referred to. -/
  ceiling : Option Nat := none
  /-- Every look behind so far takes up a single number of characters. -/
  fixedLooks : Bool := true

/-- A reading step. -/
abbrev Reader (α : Type) := StateT Scan (Except Fault) α

/-- A part of a sequence, and whether a repeat sign may follow it. -/
structure Item where
  tree : Tree
  repeatable : Bool := true

def refuse {α : Type} : Reader α := throw .badPattern

/-- Makes `rest` the text that is left. An escape sign that stands last has nothing to escape. -/
def goTo (rest : List Char) : Reader Unit :=
  if rest == ['\\'] then refuse else modify fun s => { s with rest }

/-- Goes on by `n` characters. -/
def advance (n : Nat) : Reader Unit := do goTo ((← get).rest.drop n)

/-- Takes the character `c` if it comes next. -/
def takeIf (c : Char) : Reader Bool := do
  if (← get).rest.head? == some c then
    advance 1
    return true
  else return false

/-- Takes at most `most` characters that satisfy `p`. -/
def takeWhile (most : Nat) (p : Char → Bool) : Reader (List Char) := do
  let cs := ((← get).rest.take most).takeWhile p
  advance cs.length
  return cs

/-- Takes the digits that come next. -/
def takeDigits : Reader (List Char) := do takeWhile (← get).rest.length Char.isDigit

/-! ## §2 Escapes -/

def isOctal (c : Char) : Bool := '0' ≤ c && c ≤ '7'

/-- The number that octal digits spell. -/
def octal (cs : List Char) : Nat := cs.foldl (fun n c => 8 * n + (c.toNat - 48)) 0

/-- The greatest number that octal digits may spell. -/
def maxOctal : Nat := 255

/-- The control characters that have a letter, and the escape sign itself. -/
def control? : Char → Option Nat
  | 'a' => some 7
  | 'b' => some 8
  | 't' => some 9
  | 'n' => some 10
  | 'v' => some 11
  | 'f' => some 12
  | 'r' => some 13
  | '\\' => some 92
  | _ => none

/-- The letters of character classes. -/
def class? : Char → Option SetItem
  | 'd' => some (.cls .digit false)
  | 'D' => some (.cls .digit true)
  | 's' => some (.cls .blank false)
  | 'S' => some (.cls .blank true)
  | 'w' => some (.cls .word false)
  | 'W' => some (.cls .word true)
  | _ => none

/-- The letters of places. -/
def place? : Char → Option Anchor
  | 'A' => some .textStart
  | 'Z' => some .textEnd
  | 'b' => some .boundary
  | 'B' => some .noBoundary
  | _ => none

/-- A code point written by exactly `width` hexadecimal digits. -/
def hexCode (width : Nat) : Reader Nat := do
  let cs ← takeWhile width HexDigit.isHexDigit
  let code := HexDigit.number cs
  if cs.length == width && code ≤ 0x10FFFF then return code else refuse

/-- The code point behind an escape sign and `c`: letters and digits of ASCII have a meaning of
their own or none, everything else stands for itself. -/
def escapedCode (c : Char) : Reader Nat :=
  if c == 'x' then hexCode 2
  else if c == 'u' then hexCode 4
  else if c == 'U' then hexCode 8
  else if c.isAlphanum then refuse
  else return c.toNat

/-- A single character. -/
def single (code : Nat) : Item := ⟨.set ⟨false, [.one code]⟩, true⟩

/-- A reference to a group, which must be closed. -/
def reference (index : Nat) : Reader Item := do
  let s ← get
  match s.groups[index]? with
  | some (some _) =>
    if s.ceiling.any (· ≤ index) then refuse else return ⟨.again index, true⟩
  | _ => refuse

/-- Digits behind an escape sign, the first of them not zero: three octal digits are a code point,
otherwise one or two digits are the index of a group. -/
def numbered (c : Char) : Reader Item := do
  match (← get).rest with
  | d :: rest =>
    if !d.isDigit then reference (Reading.digitsValue [c])
    else
      advance 1
      match rest with
      | e :: _ =>
        if isOctal c && isOctal d && isOctal e then
          advance 1
          let code := octal [c, d, e]
          if code ≤ maxOctal then return single code else refuse
        else reference (Reading.digitsValue [c, d])
      | [] => reference (Reading.digitsValue [c, d])
  | [] => reference (Reading.digitsValue [c])

/-- What stands behind an escape sign, outside of sets. -/
def escapedItem (c : Char) : Reader Item :=
  match place? c, class? c, control? c with
  | some place, _, _ => return ⟨.anchor place, false⟩
  | _, some item, _ => return ⟨.set ⟨false, [item]⟩, true⟩
  | _, _, some code => return single code
  | none, none, none =>
    if c == '0' then do return single (octal (← takeWhile 2 isOctal))
    else if c.isDigit then numbered c
    else do return single (← escapedCode c)

/-! ## §3 Sets -/

/-- What stands behind an escape sign inside a set. -/
def escapedMember (c : Char) : Reader SetItem :=
  match class? c, control? c with
  | some item, _ => return item
  | _, some code => return .one code
  | none, none =>
    if isOctal c then do
      let code := octal (c :: (← takeWhile 2 isOctal))
      if code ≤ maxOctal then return .one code else refuse
    else do return .one (← escapedCode c)

/-- A member of a set, ranges aside. -/
def member : Reader SetItem := do
  match (← get).rest with
  | '\\' :: c :: _ =>
    advance 2
    escapedMember c
  | c :: _ =>
    advance 1
    return .one c.toNat
  | [] => refuse

/-- The members of a set up to its closing bracket; `done` holds those before, last one first. A
closing bracket that comes first is a member. -/
def members : (fuel : Nat) → (done : List SetItem) → Reader (List SetItem)
  | 0, _ => refuse
  | fuel + 1, done => do
    if !done.isEmpty then
      if ← takeIf ']' then return done.reverse
    let low ← member
    if ← takeIf '-' then
      if ← takeIf ']' then return (.one '-'.toNat :: low :: done).reverse
      else
        match low, ← member with
        | .one a, .one b => if b < a then refuse else members fuel (.range a b :: done)
        | _, _ => refuse
    else members fuel (low :: done)

/-- A set behind its opening bracket. -/
def charSet : Reader Item := do
  let negated ← takeIf '^'
  let items ← members ((← get).rest.length + 1) []
  return ⟨.set ⟨negated, items⟩, true⟩

/-! ## §4 Repeat Signs -/

/-- Repeat counts from here on are too large. -/
def countLimit : Nat := 4294967295

/-- A repeat count that is written out. -/
def count (digits : List Char) : Reader Nat :=
  if digits.length > Reading.maxDigits then throw .tooManyDigits
  else
    let n := Reading.digitsValue digits
    if n < countLimit then return n else throw .hugeRepeat

/-- The bounds of a repeat, its opening brace taken; none if the brace stands for itself, and then
nothing more is taken. -/
def braces : Reader (Option (Nat × Option Nat)) := do
  let start := (← get).rest
  if start.head? == some '}' then return none
  let low ← takeDigits
  let high ← if ← takeIf ',' then takeDigits else pure low
  if ← takeIf '}' then
    let least ← count low
    if high.isEmpty then return some (least, none)
    else
      let most ← count high
      if most < least then refuse else return some (least, some most)
  else
    goTo start
    return none

/-- The item that a repeat makes of `item`, with the sign that may follow the bounds: lazy with a
question mark, without a way back with a plus sign. -/
def repeated (least : Nat) (most : Option Nat) (item : Item) : Reader Item := do
  if !item.repeatable then refuse
  else if ← takeIf '?' then return ⟨.loop least most false item.tree, false⟩
  else if ← takeIf '+' then return ⟨.atomic (.loop least most true item.tree), false⟩
  else return ⟨.loop least most true item.tree, false⟩

/-- The bounds that a repeat sign stands for; none if the sign is a brace that stands for itself. -/
def bounds (sign : Char) : Reader (Option (Nat × Option Nat)) :=
  if sign == '*' then return some (0, none)
  else if sign == '+' then return some (1, none)
  else if sign == '?' then return some (0, some 1)
  else braces

def isRepeatSign (c : Char) : Bool := c == '*' || c == '+' || c == '?' || c == '\x7b'

/-! ## §5 Groups -/

/-- The name of a group, up to the character `stop`, which is taken too. -/
def groupName (stop : Char) : Reader String := do
  let rest := (← get).rest
  let cs := rest.takeWhile (· != stop)
  let name := String.ofList cs
  if cs.length < rest.length && Identifier.isName name then
    advance (cs.length + 1)
    return name
  else refuse

/-- The text behind a comment. -/
def afterComment : List Char → Option (List Char)
  | [] => none
  | ')' :: rest => some rest
  | '\\' :: _ :: rest => afterComment rest
  | _ :: rest => afterComment rest

/-- Letters that set options for the whole pattern, up to the closing parenthesis. -/
def setOptions : Reader Unit := do
  let rest := (← get).rest
  let cs := rest.takeWhile fun c => c == 'i' || c == 'm' || c == 's' || c == 'u'
  if cs.isEmpty || (rest.drop cs.length).head? != some ')' then refuse
  else
    advance (cs.length + 1)
    modify fun s => { s with options :=
      ⟨s.options.ignoreCase || cs.contains 'i', s.options.eachLine || cs.contains 'm',
        s.options.dotMatchesAll || cs.contains 's'⟩ }

/-- Opens a group and gives its index. -/
def openGroup (name : Option String) : Reader Nat := do
  let s ← get
  let index := s.groups.length
  match name with
  | none => set { s with groups := s.groups ++ [none] }
  | some n =>
    if s.names.any (·.1 == n) then refuse
    else set { s with groups := s.groups ++ [none], names := s.names ++ [(n, index)] }
  return index

/-- Closes a group whose parts are known. -/
def closeGroup (index : Nat) (body : Tree) : Reader Unit :=
  modify fun s => { s with groups := s.groups.set index (some (body.width s.groups)) }

/-- The greatest number of characters that a look may go back. -/
def maxBack : Nat := 4294967295

/-- A look behind. One without a single width is remembered, for the text may still be wrong in
another way further on. -/
def lookBehind (wanted : Bool) (body : Tree) : Reader Item := do
  let back := (body.width (← get).groups).fixed?
  if !back.any (· ≤ maxBack) then modify fun s => { s with fixedLooks := false }
  return ⟨.look (some (back.getD 0)) wanted body, true⟩

/-- The items, last one first, as one part. -/
def sequence : List Item → Tree
  | [] => .empty
  | last :: before => before.foldl (fun tree item => .seq item.tree tree) last.tree

/-! ## §6 Choices and Sequences -/

mutual

/-- A choice of sequences. Options can be set at its start if `leading` holds. At most five calls
are nested for each character that is taken, which bounds the fuel. -/
def choice : (fuel : Nat) → (leading : Bool) → Reader Tree
  | 0, _ => refuse
  | fuel + 1, leading => do
    let first := sequence (← items fuel leading [])
    if ← takeIf '|' then return .choice first (← choice fuel false)
    else return first

/-- A sequence up to its end; `done` holds the items before, last one first. -/
def items : (fuel : Nat) → (leading : Bool) → (done : List Item) → Reader (List Item)
  | 0, _, _ => refuse
  | fuel + 1, leading, done => do
    match (← get).rest with
    | [] => return done
    | '|' :: _ => return done
    | ')' :: _ => return done
    | '\\' :: c :: _ =>
      advance 2
      items fuel leading ((← escapedItem c) :: done)
    | c :: _ =>
      advance 1
      if c == '[' then items fuel leading ((← charSet) :: done)
      else if c == '.' then items fuel leading (⟨.any, true⟩ :: done)
      else if c == '^' then items fuel leading (⟨.anchor .start, false⟩ :: done)
      else if c == '$' then items fuel leading (⟨.anchor .stop, false⟩ :: done)
      else if c == '(' then
        match ← group fuel (leading && done.isEmpty) with
        | some item => items fuel leading (item :: done)
        | none => items fuel leading done
      else if isRepeatSign c then
        match ← bounds c, done with
        | some (least, most), item :: before =>
          items fuel leading ((← repeated least most item) :: before)
        | some _, [] => refuse
        | none, _ => items fuel leading (single c.toNat :: done)
      else items fuel leading (single c.toNat :: done)

/-- What stands between parentheses, the opening one taken; none for a comment and for options. -/
def group : (fuel : Nat) → (leading : Bool) → Reader (Option Item)
  | 0, _ => refuse
  | fuel + 1, leading => do
    if ← takeIf '?' then
      match (← get).rest with
      | 'P' :: '<' :: _ =>
        advance 2
        return some (← captured fuel (some (← groupName '>')))
      | 'P' :: '=' :: _ =>
        advance 2
        let name ← groupName ')'
        match (← get).names.find? (·.1 == name) with
        | some (_, index) => return some (← reference index)
        | none => refuse
      | ':' :: _ =>
        advance 1
        return some ⟨← enclosed fuel, true⟩
      | '>' :: _ =>
        advance 1
        return some ⟨.atomic (← enclosed fuel), true⟩
      | '#' :: comment =>
        match afterComment comment with
        | some rest =>
          goTo rest
          return none
        | none => refuse
      | '=' :: _ =>
        advance 1
        return some ⟨.look none true (← enclosed fuel), true⟩
      | '!' :: _ =>
        advance 1
        return some ⟨.look none false (← enclosed fuel), true⟩
      | '<' :: '=' :: _ => return some (← behind fuel true)
      | '<' :: '!' :: _ => return some (← behind fuel false)
      | _ =>
        if leading then
          setOptions
          return none
        else refuse
    else return some (← captured fuel none)

/-- A look behind, its sign not yet taken. -/
def behind : (fuel : Nat) → (wanted : Bool) → Reader Item
  | 0, _ => refuse
  | fuel + 1, wanted => do
    advance 2
    let ceiling := (← get).ceiling
    modify fun s => { s with ceiling := some (ceiling.getD s.groups.length) }
    let body ← choice fuel false
    modify fun s => { s with ceiling }
    if ← takeIf ')' then lookBehind wanted body else refuse

/-- A group that keeps its text, its opening taken. -/
def captured : (fuel : Nat) → (name : Option String) → Reader Item
  | 0, _ => refuse
  | fuel + 1, name => do
    let index ← openGroup name
    let body ← enclosed fuel
    closeGroup index body
    return ⟨.group index body, true⟩

/-- A choice and the closing parenthesis behind it. -/
def enclosed : (fuel : Nat) → Reader Tree
  | 0 => refuse
  | fuel + 1 => do
    let body ← choice fuel false
    if ← takeIf ')' then return body else refuse

end

/-! ## §7 Whole Patterns -/

/-- The text of a pattern with every `(?<` that opens no look behind written as `(?P<`. -/
def spellNames : List Char → List Char
  | '(' :: '?' :: '<' :: rest =>
    let opening := match rest with
      | '=' :: _ => ['(', '?', '<']
      | '!' :: _ => ['(', '?', '<']
      | _ => ['(', '?', 'P', '<']
    opening ++ spellNames rest
  | c :: rest => c :: spellNames rest
  | [] => []

/-- A whole pattern. -/
def whole : Reader Tree := do
  goTo (← get).rest
  let tree ← choice (5 * (← get).rest.length + 5) true
  let s ← get
  if s.rest.isEmpty && s.fixedLooks then return tree else refuse

/-- The pattern that a text spells as it stands. -/
def ofChars (cs : List Char) : Except Fault Pattern := do
  let (tree, s) ← whole.run { rest := cs }
  return ⟨tree, s.groups.length - 1, s.names, s.options⟩

/-- The pattern that a text spells, with names of groups in either form. -/
def compile (text : String) : Except Fault Pattern := ofChars (spellNames text.toList)

end Pattern

end TickCircuit

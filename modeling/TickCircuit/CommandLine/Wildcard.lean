import TickCircuit.Pattern.Search

/-!
# Wildcards

A wildcard describes the names of files: a star stands for any characters, a question mark for one,
and a set in brackets for one of its members. Everything else stands for itself, and so does an
opening bracket without a closing one.
-/

namespace TickCircuit.CommandLine.Wildcard

open Pattern (SetItem CharSet)

/-- A part of a wildcard. -/
inductive Part where
  /-- Any number of characters. -/
  | many
  | one
  | among (chars : CharSet)
  deriving Repr, DecidableEq

/-! ## §1 Reading -/

/-- The members of a set. A range that is upside down is empty. -/
def members : List Char → List SetItem
  | low :: '-' :: high :: rest => .range low.toNat high.toNat :: members rest
  | c :: rest => .one c.toNat :: members rest
  | [] => []

/-- The set behind an opening bracket and the text behind the set, if the set is closed. An
exclamation mark takes all other characters, and a closing bracket that comes first is a member. -/
def set? (text : List Char) : Option (CharSet × List Char) :=
  let negated := text.head? == some '!'
  let text := if negated then text.drop 1 else text
  let first := if text.head? == some ']' then [']'] else []
  let more := (text.drop first.length).takeWhile (· != ']')
  match text.drop (first.length + more.length) with
  | [] => none
  | _ :: rest => some (⟨negated, members (first ++ more)⟩, rest)

/-- The part that matches `c` alone. -/
def literal (c : Char) : Part := .among ⟨false, [.one c.toNat]⟩

/-- The parts of a wildcard. Every step takes a character, so the length of the text is enough
fuel. -/
def parts : (fuel : Nat) → List Char → List Part
  | 0, _ => []
  | _, [] => []
  | fuel + 1, c :: rest =>
    if c == '*' then .many :: parts fuel rest
    else if c == '?' then .one :: parts fuel rest
    else if c == '[' then
      match set? rest with
      | some (chars, rest) => .among chars :: parts fuel rest
      | none => literal c :: parts fuel rest
    else literal c :: parts fuel rest

/-! ## §2 Matching -/

/-- Some end of a text satisfies a condition. -/
def someEnd (condition : List Char → Bool) : List Char → Bool
  | [] => condition []
  | c :: cs => condition (c :: cs) || someEnd condition cs

/-- The parts match the whole of a text. -/
def accepts : List Part → List Char → Bool
  | [], cs => cs.isEmpty
  | .many :: ps, cs => someEnd (accepts ps) cs
  | .one :: _, [] => false
  | .one :: ps, _ :: cs => accepts ps cs
  | .among _ :: _, [] => false
  | .among chars :: ps, c :: cs => chars.holds false c && accepts ps cs

/-- A wildcard matches a name. -/
def holds (wildcard name : String) : Bool :=
  accepts (parts wildcard.length wildcard.toList) name.toList

/-- A text has a character that may stand for others. -/
def isWild (text : String) : Bool := text.toList.any fun c => c == '*' || c == '?' || c == '['

end TickCircuit.CommandLine.Wildcard

/-!
# Patterns

The parts of a pattern. A pattern describes texts: characters and sets of characters, places between
characters, sequences, choices, loops, groups and looks at what lies ahead or behind.

A choice prefers its first branch and a greedy loop prefers another round, so a pattern also orders
the ways in which it matches.
-/

namespace TickCircuit.Pattern

/-- A class of characters. -/
inductive CharClass where
  | digit
  | blank
  | word
  deriving Repr, DecidableEq

/-- A part of a set of characters, in code points. -/
inductive SetItem where
  | one (code : Nat)
  | range (low high : Nat)
  | cls (c : CharClass) (negated : Bool)
  deriving Repr, DecidableEq

/-- A set of characters: the union of its items, or all others. -/
structure CharSet where
  negated : Bool
  items : List SetItem
  deriving Repr, DecidableEq

/-- A place between two characters. -/
inductive Anchor where
  /-- The start of the text, or of a line. -/
  | start
  /-- The end of the text, before its last line feed, or the end of a line. -/
  | stop
  | textStart
  | textEnd
  | boundary
  | noBoundary
  deriving Repr, DecidableEq

/-- A part of a pattern. -/
inductive Tree where
  | empty
  | any
  | set (chars : CharSet)
  | anchor (place : Anchor)
  | seq (first second : Tree)
  | choice (first second : Tree)
  | group (index : Nat) (body : Tree)
  /-- The text that a group holds, once more. -/
  | again (index : Nat)
  | loop (least : Nat) (most : Option Nat) (greedy : Bool) (body : Tree)
  /-- The first way in which the body matches, and no other. -/
  | atomic (body : Tree)
  /-- A look ahead, or `back` characters behind, which takes up no text. -/
  | look (back : Option Nat) (wanted : Bool) (body : Tree)
  deriving Repr, Inhabited

/-- What holds throughout a pattern. -/
structure Options where
  ignoreCase : Bool := false
  eachLine : Bool := false
  dotMatchesAll : Bool := false
  deriving Repr, DecidableEq

/-! ## Widths -/

/-- The least and the greatest number of characters that a part takes up; no greatest number when
there is no bound. -/
structure Width where
  least : Nat
  most : Option Nat
  deriving Repr, DecidableEq, Inhabited

namespace Width

def zero : Width := ⟨0, some 0⟩

def one : Width := ⟨1, some 1⟩

def add (a b : Width) : Width :=
  ⟨a.least + b.least, match a.most, b.most with
    | some x, some y => some (x + y)
    | _, _ => none⟩

def join (a b : Width) : Width :=
  ⟨min a.least b.least, match a.most, b.most with
    | some x, some y => some (max x y)
    | _, _ => none⟩

/-- The width of `least` to `most` rounds. -/
def rounds (w : Width) (least : Nat) (most : Option Nat) : Width :=
  ⟨w.least * least, match w.most, most with
    | some 0, _ => some 0
    | some x, some n => some (x * n)
    | none, some 0 => some 0
    | _, _ => none⟩

/-- The single width, if there is only one. -/
def fixed? (w : Width) : Option Nat := if w.most == some w.least then some w.least else none

end Width

/-- The width of a part; `groups` gives the widths of the groups that are already closed. -/
def Tree.width (groups : List (Option Width)) : Tree → Width
  | empty => .zero
  | any => .one
  | set _ => .one
  | anchor _ => .zero
  | seq a b => (a.width groups).add (b.width groups)
  | choice a b => (a.width groups).join (b.width groups)
  | group _ body => body.width groups
  | again i => (groups[i]?.join).getD .zero
  | loop least most _ body => (body.width groups).rounds least most
  | atomic body => body.width groups
  | look .. => .zero

end TickCircuit.Pattern

import TickCircuit.Pattern.Reader
import TickCircuit.Text.LetterCase

/-!
# Searching with Patterns

`Pattern.search` finds the first place in a text where a pattern matches and, there, the match that
the pattern prefers. A part is matched together with everything that follows it: when what follows
fails, the part goes on to its next way of matching.

A loop stops after a round that took up no text. A group holds what it matched last.
-/

namespace TickCircuit.Pattern

/-! ## §1 Characters -/

def CharClass.holds : CharClass → Char → Bool
  | digit, c => DecimalDigit.isDigit c
  | blank, c => Blank.isBlank c
  | word, c => Word.isWord c

/-- A part of a set holds `c`, or one of its `variants`. -/
def SetItem.holds (variants : List Nat) (c : Char) : SetItem → Bool
  | one code => variants.contains code
  | range low high => variants.any fun code => low ≤ code && code ≤ high
  | cls k negated => k.holds c != negated

def CharSet.holds (s : CharSet) (ignoreCase : Bool) (c : Char) : Bool :=
  let variants := if ignoreCase then LetterCase.variants c.toNat else [c.toNat]
  s.items.any (·.holds variants c) != s.negated

/-- Two characters are the same letter. -/
def sameLetter (ignoreCase : Bool) (c d : Char) : Bool :=
  c == d || (ignoreCase && LetterCase.lower c.toNat == LetterCase.lower d.toNat)

/-! ## §2 Places -/

/-- A word starts or ends at `pos`. -/
def isBoundary (text : Array Char) (pos : Nat) : Bool :=
  let before := 0 < pos && (text[pos - 1]?).any Word.isWord
  before != (text[pos]?).any Word.isWord

/-- `pos` is a place of the wanted kind. An empty text has no boundary and no place that is none. -/
def Anchor.holds (options : Options) (text : Array Char) (pos : Nat) : Anchor → Bool
  | start => pos == 0 || (options.eachLine && text[pos - 1]? == some '\n')
  | stop => pos == text.size || ((options.eachLine || pos + 1 == text.size) &&
      text[pos]? == some '\n')
  | textStart => pos == 0
  | textEnd => pos == text.size
  | boundary => !text.isEmpty && isBoundary text pos
  | noBoundary => !text.isEmpty && !isBoundary text pos

/-! ## §3 Matching -/

/-- The spans of the groups, by index. -/
abbrev Groups := Array (Option (Nat × Nat))

/-- Where a match ends, and what its groups hold. -/
abbrev Outcome := Option (Nat × Groups)

/-- What follows a part: it is given the place and the groups behind the part. -/
abbrev Next := Nat → Groups → Outcome

/-- A part, matched at a place together with what follows it. -/
abbrev Matcher := Nat → Groups → Next → Outcome

/-- Rounds of a loop, `count` of them done and the last optional one begun at `last`. Behind the
least number of rounds each one has to start at a new place, so the least number and the length of
the text bound the rounds. -/
def rounds (body : Matcher) (least : Nat) (most : Option Nat) (greedy : Bool) :
    (fuel : Nat) → (count : Nat) → (last : Option Nat) → Matcher
  | 0, _, _ => fun _ _ _ => none
  | fuel + 1, count, last => fun pos groups next =>
    let another (last : Option Nat) (_ : Unit) : Outcome :=
      body pos groups fun pos groups =>
        rounds body least most greedy fuel (count + 1) last pos groups next
    if count < least then another last ()
    else if most.all (count < ·) && last != some pos then
      if greedy then (another (some pos) ()).orElse fun _ => next pos groups
      else (next pos groups).orElse (another (some pos))
    else next pos groups

/-- The place behind the second occurrence of what a group holds. -/
def repeatSpan? (ignoreCase : Bool) (text : Array Char) (pos : Nat) (span : Nat × Nat) :
    Option Nat :=
  let length := span.2 - span.1
  if pos + length ≤ text.size &&
      (List.range length).all fun i =>
        match text[span.1 + i]?, text[pos + i]? with
        | some c, some d => sameLetter ignoreCase c d
        | _, _ => false
  then some (pos + length) else none

/-- The matcher of a part. -/
def Tree.matcher (options : Options) (text : Array Char) : Tree → Matcher
  | empty => fun pos groups next => next pos groups
  | any => fun pos groups next =>
    match text[pos]? with
    | some c => if options.dotMatchesAll || c != '\n' then next (pos + 1) groups else none
    | none => none
  | set chars => fun pos groups next =>
    match text[pos]? with
    | some c => if chars.holds options.ignoreCase c then next (pos + 1) groups else none
    | none => none
  | anchor place => fun pos groups next =>
    if place.holds options text pos then next pos groups else none
  | seq a b => fun pos groups next =>
    a.matcher options text pos groups fun pos groups => b.matcher options text pos groups next
  | choice a b => fun pos groups next =>
    (a.matcher options text pos groups next).orElse fun _ => b.matcher options text pos groups next
  | group index body => fun pos groups next =>
    body.matcher options text pos groups fun stop groups =>
      next stop (groups.setIfInBounds index (some (pos, stop)))
  | again index => fun pos groups next =>
    match (groups[index]?.join).bind (repeatSpan? options.ignoreCase text pos) with
    | some stop => next stop groups
    | none => none
  | loop least most greedy body =>
    rounds (body.matcher options text) least most greedy (least + text.size + 3) 0 none
  | atomic body => fun pos groups next =>
    match body.matcher options text pos groups fun stop groups => some (stop, groups) with
    | some (stop, groups) => next stop groups
    | none => none
  | look back wanted body => fun pos groups next =>
    let from? := match back with
      | some n => if n ≤ pos then some (pos - n) else none
      | none => some pos
    let found := from?.bind fun start =>
      body.matcher options text start groups fun stop groups => some (stop, groups)
    match found, wanted with
    | some (_, groups), true => next pos groups
    | none, false => next pos groups
    | _, _ => none

/-! ## §4 Searching -/

/-- A match: its span and the spans of the groups that took part, in code points. -/
structure Match where
  start : Nat
  stop : Nat
  /-- The spans of the groups, from the first on. -/
  groups : List (Option (Nat × Nat))

/-- The match that starts at `start`, if there is one. -/
def matchAt? (p : Pattern) (text : Array Char) (start : Nat) : Option Match :=
  (p.tree.matcher p.options text start (Array.replicate (p.groupCount + 1) none)
    fun stop groups => some (stop, groups)).map
      fun (stop, groups) => ⟨start, stop, groups.toList.drop 1⟩

/-- The first match in a text. -/
def search (p : Pattern) (text : String) : Option Match :=
  let cs := text.toList.toArray
  (List.range (cs.size + 1)).findSome? (matchAt? p cs)

/-- The part of a text that a span covers. -/
def slice (text : String) (span : Nat × Nat) : String :=
  String.ofList ((text.toList.drop span.1).take (span.2 - span.1))

/-- The text that a group holds; none for a group that took no part. -/
def Match.groupText (m : Match) (text : String) (index : Nat) : Option String :=
  (m.groups[index - 1]?.join).map (slice text)

end TickCircuit.Pattern

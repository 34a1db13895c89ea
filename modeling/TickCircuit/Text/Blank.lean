import TickCircuit.Text.Ranges

/-!
# Blank Characters

The characters that count as white space in Unicode text, together with the four information
separators U+001C to U+001F, and the trimming of text at both ends.
-/

namespace TickCircuit.Blank

/-- The blank characters. -/
def table : CodeRanges := #[
  (0x9, 0xd), (0x1c, 0x20), (0x85, 0x85), (0xa0, 0xa0), (0x1680, 0x1680), (0x2000, 0x200a),
  (0x2028, 0x2029), (0x202f, 0x202f), (0x205f, 0x205f), (0x3000, 0x3000)]

/-- `c` is blank. -/
def isBlank (c : Char) : Bool := table.covers c.toNat

/-- `c` is one of the six blanks of ASCII text layout: tab, line feed, vertical tab, form feed,
carriage return and space. -/
def isLayoutBlank (c : Char) : Bool := (9 ≤ c.toNat && c.toNat ≤ 13) || c.toNat == 32

/-- `cs` without the characters that satisfy `p` at its two ends. -/
def trimBoth (p : Char → Bool) (cs : List Char) : List Char :=
  ((cs.dropWhile p).reverse.dropWhile p).reverse

/-- `s` without the blanks at its two ends. -/
def trim (s : String) : String := String.ofList (trimBoth isBlank s.toList)

end TickCircuit.Blank

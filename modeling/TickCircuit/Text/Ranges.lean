/-!
# Sets of Code Points as Ranges

A property of characters is kept as the list of its maximal ranges of code points, in ascending
order and both ends included.
-/

namespace TickCircuit

/-- Ranges of code points, ends included. -/
abbrev CodeRanges := Array (Nat × Nat)

namespace CodeRanges

/-- `code` lies in one of the ranges. -/
def covers (rs : CodeRanges) (code : Nat) : Bool :=
  rs.any fun r => r.1 ≤ code && code ≤ r.2

end CodeRanges

end TickCircuit

/-!
# Hexadecimal Digits
-/

namespace TickCircuit.HexDigit

/-- The value of a hexadecimal digit, in either case. -/
def value? (c : Char) : Option Nat :=
  if c.isDigit then some (c.toNat - 48)
  else if 'a' ≤ c && c ≤ 'f' then some (c.toNat - 87)
  else if 'A' ≤ c && c ≤ 'F' then some (c.toNat - 55)
  else none

def isHexDigit (c : Char) : Bool := (value? c).isSome

/-- The number that hexadecimal digits spell. -/
def number (cs : List Char) : Nat := cs.foldl (fun n c => 16 * n + (value? c).getD 0) 0

/-- The hexadecimal digits of `n`, at least `width` of them. -/
def digits (width n : Nat) : List Char :=
  let ds := Nat.toDigits 16 n
  List.replicate (width - ds.length) '0' ++ ds

end TickCircuit.HexDigit

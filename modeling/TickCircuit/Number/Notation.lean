import TickCircuit.Number.Shortest

/-!
# How Numbers Are Written

The layout of a number once its digits are known. A fraction is written in place while its leading
digit stands at an exponent from `-4` to `15`, always with a point and at least one digit behind
it; outside that range it takes a mark `e`, a sign and at least two digits of exponent.
-/

namespace TickCircuit

/-- The decisions of a layout for fractions. -/
structure Layout where
  /-- The least exponent of the leading digit that is written in place. -/
  leastInPlace : Int
  /-- The greatest exponent of the leading digit that is written in place. -/
  greatestInPlace : Int
  /-- The fewest digits of a written exponent. -/
  exponentDigits : Nat
  infinity : String
  notANumber : String

namespace Layout

/-- The layout of fractions in signal text. -/
def signal : Layout := ⟨-4, 15, 2, "inf", "nan"⟩

/-- The layout of fractions in documents. -/
def document : Layout := ⟨-4, 15, 2, "Infinity", "NaN"⟩

/-- As many zeros as asked for. -/
def zeros (n : Nat) : String := String.ofList (List.replicate n '0')

/-- The mark, sign and digits of the exponent `x`. -/
def exponentText (l : Layout) (x : Int) : String :=
  let digits := toString x.natAbs
  "e" ++ (if x < 0 then "-" else "+") ++ zeros (l.exponentDigits - digits.length) ++ digits

/-- The text of a positive decimal. -/
def decimalText (l : Layout) (d : Decimal) : String :=
  let digits := toString d.digits
  let lead : Int := digits.length + d.exponent - 1
  if l.leastInPlace ≤ lead && lead ≤ l.greatestInPlace then
    if 0 ≤ d.exponent then digits ++ zeros d.exponent.toNat ++ ".0"
    else if 0 ≤ lead then
      let whole := lead.toNat + 1
      String.ofList (digits.toList.take whole) ++ "." ++ String.ofList (digits.toList.drop whole)
    else "0." ++ zeros (-lead - 1).toNat ++ digits
  else
    let tail := digits.toList.drop 1
    String.ofList (digits.toList.take 1) ++
      (if tail.isEmpty then "" else "." ++ String.ofList tail) ++ l.exponentText lead

/-- The text of a `Float`. -/
def floatText (l : Layout) (x : Float) : String :=
  match x.toModel.unpack with
  | .notANumber => l.notANumber
  | .infinity s => (if s.apply 1 < 0 then "-" else "") ++ l.infinity
  | .zero s => if s.apply 1 < 0 then "-0.0" else "0.0"
  | .finite s m e _ =>
    (if s.apply 1 < 0 then "-" else "") ++ l.decimalText (Shortest.ofBinary m e)

end Layout

end TickCircuit

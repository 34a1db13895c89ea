import TickCircuit.Number.Binary
import TickCircuit.Text.Blank
import TickCircuit.Text.DecimalDigit

/-!
# Numbers Read from Text

A number may stand between blanks and may carry a sign. Its digits may come from any script, and
single low lines may separate them. A fraction has digits on at least one side of its point and an
optional exponent; the words for infinity and for "not a number" are accepted in any case. Reading
is correctly rounded.
-/

namespace TickCircuit.Reading

/-! ## §1 A Plain Spelling -/

/-- The ASCII character that stands for `c` in a number: blanks become spaces and digits of other
scripts become the digits `0` to `9`. Nothing else beyond ASCII occurs in a number. -/
def plainChar (c : Char) : Char :=
  if c.toNat < 128 then c
  else if Blank.isBlank c then ' '
  else match DecimalDigit.value? c with
    | some d => Char.ofNat (48 + d)
    | none => '?'

/-- The spelling of a number in ASCII, without the blanks around it. -/
def plain (s : String) : List Char :=
  Blank.trimBoth Blank.isLayoutBlank (s.toList.map plainChar)

/-- The text with its low lines removed; none unless each of them stands between two digits. The
first argument tells whether a digit came just before. -/
def dropSeparators (afterDigit : Bool) : List Char → Option (List Char)
  | [] => some []
  | '_' :: rest =>
    match rest with
    | c :: _ => if afterDigit && c.isDigit then dropSeparators false rest else none
    | [] => none
  | c :: rest => (dropSeparators c.isDigit rest).map (c :: ·)

/-- A leading sign, as "is it negative", and the rest. -/
def takeSign : List Char → Bool × List Char
  | '-' :: rest => (true, rest)
  | '+' :: rest => (false, rest)
  | rest => (false, rest)

/-- The number written by decimal digits. -/
def digitsValue (cs : List Char) : Nat := cs.foldl (fun n c => 10 * n + (c.toNat - 48)) 0

/-! ## §2 Whole Numbers -/

/-- The most digits that the text of a whole number may have. -/
def maxDigits : Nat := 4300

/-- A whole number from its plain digits; none for no digits, a foreign character or too many
digits. -/
def whole? (cs : List Char) : Option Nat :=
  if cs.isEmpty || !cs.all Char.isDigit || cs.length > maxDigits then none
  else some (digitsValue cs)

/-- The whole number that a text spells. -/
def int? (s : String) : Option Int := do
  let cs ← dropSeparators false (plain s)
  let (negative, digits) := takeSign cs
  let n ← whole? digits
  return if negative then -(n : Int) else n

/-! ## §3 Fractions -/

/-- The `Float` nearest to `± digits · 10^exponent`. Numbers far outside the range are decided
without their power of ten. -/
def nearestDecimal (negative : Bool) (digits : Nat) (exponent : Int) : Float :=
  let length : Int := (toString digits).length
  if digits = 0 then Binary.signedZero negative
  else if exponent + length > 400 then (if negative then -1.0 / 0.0 else 1.0 / 0.0)
  else if exponent + length < -400 then Binary.signedZero negative
  else if 0 ≤ exponent then Binary.ofRatio negative (digits * Nat.pow 10 exponent.toNat) 1
  else Binary.ofRatio negative digits (Nat.pow 10 (-exponent).toNat)

/-- The exponent part of a fraction: nothing at all, or a mark `e`, an optional sign and digits. -/
def exponent? : List Char → Option Int
  | [] => some 0
  | c :: rest =>
    if c == 'e' || c == 'E' then
      let (negative, digits) := takeSign rest
      if digits.isEmpty || !digits.all Char.isDigit then none
      else some (if negative then -(digitsValue digits : Int) else digitsValue digits)
    else none

/-- An unsigned fraction in plain spelling. -/
def fraction? (negative : Bool) (cs : List Char) : Option Float :=
  let left := cs.takeWhile Char.isDigit
  let rest := cs.dropWhile Char.isDigit
  let (right, rest) := match rest with
    | '.' :: tail => (tail.takeWhile Char.isDigit, tail.dropWhile Char.isDigit)
    | _ => ([], rest)
  if left.isEmpty && right.isEmpty then none
  else (exponent? rest).map fun e =>
    nearestDecimal negative (digitsValue (left ++ right)) (e - right.length)

/-- The `Float` that a text spells. -/
def float? (s : String) : Option Float := do
  let cs ← dropSeparators false (plain s)
  let (negative, body) := takeSign cs
  let word := String.ofList (body.map Char.toLower)
  if word == "inf" || word == "infinity" then
    return if negative then -1.0 / 0.0 else 1.0 / 0.0
  else if word == "nan" then return 0.0 / 0.0
  else fraction? negative body

end TickCircuit.Reading
